import HttpDoctest.Number.Binary
import HttpDoctest.Number.Shortest

set_option autoImplicit false

/-! # Writing numbers

Decimals are written positionally, with as many zeros as it takes, or with a power of ten.
`plain` never uses a power of ten; `jsonText` uses one for very small and very large numbers
and shows by a point or a power that a number is not an integer.
-/

namespace HttpDoctest.Number

open Float.Model (UnpackedFloat)

/-- A sign as it is written in front of a number. -/
def signText : UnpackedFloat.Sign → List Char
  | .negative => ['-']
  | .positive => []

/-- The digits of a natural number. -/
def digits (n : Nat) : List Char :=
  Nat.toDigits 10 n

/-- An integer in digits. -/
def intText (n : Int) : List Char :=
  match n with
  | .ofNat n => digits n
  | .negSucc n => '-' :: digits (n + 1)

namespace Decimal

/-- A decimal with all its places and no power of ten. -/
def positional (d : Decimal) : List Char :=
  let ds := digits d.significand
  if 0 ≤ d.exponent then ds ++ List.replicate d.exponent.toNat '0'
  else
    let places := (-d.exponent).toNat
    if places < ds.length then
      ds.take (ds.length - places) ++ '.' :: ds.drop (ds.length - places)
    else '0' :: '.' :: List.replicate (places - ds.length) '0' ++ ds

/-- The power of ten of the leading digit. -/
def leadingExponent (d : Decimal) : Int :=
  (digits d.significand).length + d.exponent - 1

/-- A decimal with one digit in front of the point and a power of ten with its sign. -/
def scientific (d : Decimal) : List Char :=
  let mantissa := match digits d.significand with
    | [] => []
    | [digit] => [digit]
    | digit :: more => digit :: '.' :: more
  let exponent := d.leadingExponent
  mantissa ++ 'e' :: (if exponent < 0 then '-' else '+') :: digits exponent.natAbs

/-- A decimal as JSON text: positional from `1e-5` up to below `1e16`, with at least one place
behind the point, and with a power of ten outside. -/
def jsonText (d : Decimal) : List Char :=
  let exponent := d.leadingExponent
  if -5 ≤ exponent ∧ exponent < 16 then
    if 0 ≤ d.exponent then d.positional ++ ['.', '0'] else d.positional
  else d.scientific

end Decimal

/-- A double with all its places: the shortest digits that read back, a tie going up. -/
def plain (x : Float) : List Char :=
  match unpack x with
  | .notANumber => "NaN".toList
  | .infinity sign => signText sign ++ "inf".toList
  | .zero sign => signText sign ++ ['0']
  | .finite sign m e _ => signText sign ++ (shortest .up m e).positional

/-- A double as a JSON number that is no integer: the shortest digits that read back, a tie
going to the even digit. What JSON cannot hold is written as `null`. -/
def jsonText (x : Float) : List Char :=
  match unpack x with
  | .notANumber => "null".toList
  | .infinity _ => "null".toList
  | .zero sign => signText sign ++ ['0', '.', '0']
  | .finite sign m e _ => signText sign ++ (shortest .even m e).jsonText

end HttpDoctest.Number
