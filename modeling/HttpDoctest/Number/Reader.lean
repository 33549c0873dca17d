import HttpDoctest.Number.Binary

set_option autoImplicit false

/-! # Reading numbers

Two readers that take a whole text or nothing. `ofText?` reads a decimal number: a sign, digits
with at most one point among or beside them, a power of ten; or infinity or the value that is
not a number by name. `indexOfText?` reads a position: digits, perhaps after a plus sign.
-/

namespace HttpDoctest.Number

/-- The natural number with the given digits, most significant first. -/
def ofDigits (ds : List Char) : Nat :=
  ds.foldl (fun n d => 10 * n + (d.toNat - '0'.toNat)) 0

/-- The power of ten behind a number: `e` or `E`, perhaps a sign, and at least one digit. No
text at all is the power zero. -/
def exponentOfText? : List Char → Option Int
  | [] => some 0
  | mark :: text =>
      if mark = 'e' ∨ mark = 'E' then
        let (negative, ds) := match text with
          | '-' :: ds => (true, ds)
          | '+' :: ds => (false, ds)
          | ds => (false, ds)
        if ds.isEmpty || !ds.all Char.isDigit then none
        else some (if negative then -(ofDigits ds : Int) else ofDigits ds)
      else none

/-- A number without a sign, written in digits. -/
def decimalOfText? (text : List Char) : Option Float :=
  let whole := text.takeWhile Char.isDigit
  let (places, rest) := match text.dropWhile Char.isDigit with
    | '.' :: more => (more.takeWhile Char.isDigit, more.dropWhile Char.isDigit)
    | more => ([], more)
  if whole.isEmpty && places.isEmpty then none
  else (exponentOfText? rest).map fun exponent =>
    ofDecimal (ofDigits (whole ++ places)) (exponent - places.length)

/-- A number without a sign. The names `inf`, `infinity` and `nan` are known in any case. -/
def unsignedOfText? (text : List Char) : Option Float :=
  let name := String.ofList (text.map Char.toLower)
  if name = "inf" ∨ name = "infinity" then some infinity
  else if name = "nan" then some nan
  else decimalOfText? text

/-- A number with or without a sign. -/
def ofText? : List Char → Option Float
  | '-' :: text => (unsignedOfText? text).map fun x => -x
  | '+' :: text => unsignedOfText? text
  | text => unsignedOfText? text

/-- One more than the largest position that a text can name. -/
def indexLimit : Nat := Nat.pow 2 64

/-- A position in a sequence, written in digits with or without a plus sign. -/
def indexOfText? (text : List Char) : Option Nat :=
  let ds := match text with
    | '+' :: ds => ds
    | ds => ds
  if ds.isEmpty || !ds.all Char.isDigit then none
  else if ofDigits ds < indexLimit then some (ofDigits ds) else none

/-- A position in a sequence, given as a number. -/
def index? (x : Float) : Option Nat :=
  match toInt? x with
  | some (.ofNat n) => if n < indexLimit then some n else none
  | _ => none

end HttpDoctest.Number
