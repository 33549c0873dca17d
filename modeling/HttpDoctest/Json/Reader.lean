import HttpDoctest.Json.Basic
import HttpDoctest.Number.Reader
import HttpDoctest.Reading
import HttpDoctest.Table
import HttpDoctest.Text.Search

set_option autoImplicit false

/-! # Reading JSON

A reader for JSON texts that says where and why a text is none. A failure points at a byte of
the text; the place is given as a line, counted from one, and a column, the number of bytes
taken in that line. Arrays and objects may be nested 127 deep. A field name that comes again
replaces the value of the first one.
-/

namespace HttpDoctest.Json

/-! ## Faults -/

/-- Why a text is not JSON. -/
inductive Fault where
  | endInList
  | endInObject
  | endInString
  | endInValue
  | expectedColon
  | expectedListEnd
  | expectedObjectEnd
  | expectedIdent
  | expectedValue
  | invalidEscape
  | invalidNumber
  | numberOutOfRange
  | controlCharacter
  | keyNotString
  | loneSurrogate
  | trailingComma
  | trailingCharacters
  | endOfHexEscape
  | recursionLimit
deriving DecidableEq, Repr

/-- The text of a fault. -/
def Fault.message : Fault → String
  | endInList => "EOF while parsing a list"
  | endInObject => "EOF while parsing an object"
  | endInString => "EOF while parsing a string"
  | endInValue => "EOF while parsing a value"
  | expectedColon => "expected \x60:\x60"
  | expectedListEnd => "expected \x60,\x60 or \x60]\x60"
  | expectedObjectEnd => "expected \x60,\x60 or \x60\x7d\x60"
  | expectedIdent => "expected ident"
  | expectedValue => "expected value"
  | invalidEscape => "invalid escape"
  | invalidNumber => "invalid number"
  | numberOutOfRange => "number out of range"
  | controlCharacter => "control character (\\u0000-\\u001F) found while parsing a string"
  | keyNotString => "key must be a string"
  | loneSurrogate => "lone leading surrogate in hex escape"
  | trailingComma => "trailing comma"
  | trailingCharacters => "trailing characters"
  | endOfHexEscape => "unexpected end of hex escape"
  | recursionLimit => "recursion limit exceeded"

namespace Reader

/-- A fault at the place that lies `ahead` bytes into `left`, the part of the text not yet
read. A place behind the end of the text counts as its end. -/
structure Stop where
  fault : Fault
  left : List Char
  ahead : Nat

/-- A fault just in front of what is left. -/
def stopAt {α : Type} (fault : Fault) (left : List Char) : Except Stop α :=
  .error ⟨fault, left, 0⟩

/-- A fault just behind the first byte of what is left. -/
def stopAfter {α : Type} (fault : Fault) (left : List Char) : Except Stop α :=
  .error ⟨fault, left, 1⟩

/-- The result of reading from the front of a text of which less than `bound` is left. -/
abbrev Result (α : Type) (bound : Nat) := Except Stop (Reading Char α bound)

/-- Whether `c` may stand between tokens. -/
def isSpace (c : Char) : Bool :=
  c == ' ' || c == '\n' || c == '\t' || c == '\r'

/-- The text without the spaces at its front. -/
def skip (text : List Char) : List Char :=
  text.dropWhile isSpace

theorem length_skip_le (text : List Char) : (skip text).length ≤ text.length :=
  (List.dropWhile_sublist _).length_le

theorem length_lt_of_skip {text rest : List Char} {c : Char} (h : skip text = c :: rest) :
    rest.length < text.length := by
  have := length_skip_le text
  rw [h, List.length_cons] at this
  exact this

/-! ## Names -/

/-- Reads the characters of a name one by one. -/
def name : List Char → (text : List Char) → Result Unit (text.length + 1)
  | [], text => .ok ⟨(), text, Nat.lt_succ_self _⟩
  | _ :: _, [] => stopAt .endInValue []
  | e :: expected, c :: text =>
      if c = e then (name expected text).map (·.weaken (by simp))
      else stopAfter .expectedIdent (c :: text)

/-! ## Strings -/

/-- The value of a digit in base sixteen. -/
def hexValue? (c : Char) : Option Nat :=
  if '0' ≤ c ∧ c ≤ '9' then some (c.toNat - '0'.toNat)
  else if 'a' ≤ c ∧ c ≤ 'f' then some (c.toNat - 'a'.toNat + 10)
  else if 'A' ≤ c ∧ c ≤ 'F' then some (c.toNat - 'A'.toNat + 10)
  else none

/-- The number of up to four digits in base sixteen. -/
def hexNumber? (ds : List Char) : Option Nat :=
  ds.foldl (fun n d => n.bind fun n => (hexValue? d).map (16 * n + ·)) (some 0)

/-- Reads four digits in base sixteen. Where four bytes are left that are no digits, the fault
lies behind them. -/
def hexDigits (text : List Char) : Result Nat text.length :=
  let short : Result Nat text.length :=
    if 4 ≤ Text.byteLength text then .error ⟨.invalidEscape, text, 4⟩ else stopAt .endInString []
  match text, short with
  | a :: b :: c :: d :: rest, short =>
      match hexNumber? [a, b, c, d] with
      | some n => .ok ⟨n, rest, by simp only [List.length_cons]; omega⟩
      | none => short
  | _, short => short

/-- Reads the code point behind `\u`. One outside the basic plane is written as two halves. -/
def unicodeEscape (text : List Char) : Result Char text.length := do
  let high ← hexDigits text
  if 0xDC00 ≤ high.value ∧ high.value ≤ 0xDFFF then stopAt .loneSurrogate high.rest
  else if high.value < 0xD800 ∨ 0xDBFF < high.value then
    return high.map Char.ofNat
  else match h : high.rest with
    | [] => stopAt .endInString []
    | '\\' :: [] => stopAt .endInString []
    | '\\' :: 'u' :: after =>
        let low ← hexDigits after
        if 0xDC00 ≤ low.value ∧ low.value ≤ 0xDFFF then
          let n := (high.value - 0xD800) * 0x400 + (low.value - 0xDC00) + 0x10000
          return ⟨Char.ofNat n, low.rest, by
            have := high.rest_lt
            have := low.rest_lt
            rw [h] at *
            simp only [List.length_cons] at *
            omega⟩
        else stopAt .loneSurrogate low.rest
    | '\\' :: left => stopAfter .endOfHexEscape left
    | left => stopAfter .endOfHexEscape left

/-- Reads what follows a backslash. -/
def escape (text : List Char) : Result Char text.length :=
  match text with
  | [] => stopAt .endInString []
  | c :: rest =>
      let plain (d : Char) : Result Char (rest.length + 1) := .ok ⟨d, rest, Nat.lt_succ_self _⟩
      if c = '"' ∨ c = '\\' ∨ c = '/' then plain c
      else if c = 'b' then plain '\x08'
      else if c = 'f' then plain '\x0c'
      else if c = 'n' then plain '\n'
      else if c = 'r' then plain '\r'
      else if c = 't' then plain '\t'
      else if c = 'u' then (unicodeEscape rest).map (·.weaken (Nat.le_succ _))
      else stopAfter .invalidEscape (c :: rest)

/-- Reads a string behind its opening quote, up to and with its closing quote. -/
def stringBody (text : List Char) : Result (List Char) text.length :=
  match text with
  | [] => stopAt .endInString []
  | c :: rest =>
      if c = '"' then .ok ⟨[], rest, Nat.lt_succ_self _⟩
      else if c = '\\' then do
        let first ← escape rest
        have := first.rest_lt
        let more ← stringBody first.rest
        return ⟨first.value :: more.value, more.rest, by
          have := more.rest_lt; simp only [List.length_cons]; omega⟩
      else if c.toNat < 0x20 then stopAfter .controlCharacter (c :: rest)
      else do
        let more ← stringBody rest
        return ⟨c :: more.value, more.rest, by
          have := more.rest_lt; simp only [List.length_cons]; omega⟩
termination_by text.length

/-! ## Numbers

The digits of a number are collected into a significand as long as it stays below `2 ^ 64`.
Digits of the whole part that no longer fit raise the power of ten, digits behind the point
are dropped.
-/

/-- The bound of significands. -/
def significandLimit : Nat := 0x10000000000000000

/-- The value of a decimal digit. -/
def digitValue (c : Char) : Nat := c.toNat - '0'.toNat

/-- A significand, and the number of digits that were appended to it. -/
structure Collected where
  significand : Nat
  appended : Nat

/-- Appends digits to a significand as long as it stays below its bound. -/
def collect (found : Collected) : (text : List Char) → Reading Char Collected (text.length + 1)
  | [] => ⟨found, [], Nat.zero_lt_one⟩
  | c :: text =>
      let next := 10 * found.significand + digitValue c
      if c.isDigit ∧ next < significandLimit then
        (collect ⟨next, found.appended + 1⟩ text).weaken (Nat.le_succ _)
      else ⟨found, c :: text, Nat.lt_succ_self _⟩

/-- Whether the text goes on with a digit. -/
def startsWithDigit : List Char → Bool
  | [] => false
  | c :: _ => c.isDigit

/-- The text without the digits at its front. -/
def skipDigits (text : List Char) : List Char :=
  text.dropWhile Char.isDigit

theorem length_skipDigits_le (text : List Char) : (skipDigits text).length ≤ text.length :=
  (List.dropWhile_sublist _).length_le

/-- Scales a double by a power of ten in steps that stay in range, each step rounded. Nothing
is given where the number is too large. -/
def scale? (x : Float) (exponent : Int) : Option Float :=
  if h : exponent < -308 then
    if x == 0 then some x else scale? (x / Number.ofDecimal 1 308) (exponent + 308)
  else if exponent < 0 then some (x / Number.ofDecimal 1 (-exponent))
  else if exponent ≤ 308 then
    let y := x * Number.ofDecimal 1 exponent
    if y.isInf then none else some y
  else if x == 0 then some x else none
termination_by (-exponent).toNat

/-- A double with a sign in front of it. -/
def signed (negative : Bool) (x : Float) : Float :=
  if negative then -x else x

/-- The number with the given sign, significand and power of ten, read up to `rest`. -/
def scaled {bound : Nat} (negative : Bool) (significand : Nat) (exponent : Int)
    (rest : List Char) (h : rest.length < bound) : Result JsonNumber bound :=
  match scale? (Number.ofInt significand) exponent with
  | some x => .ok ⟨.double (signed negative x), rest, h⟩
  | none => stopAt .numberOutOfRange rest

/-- The bound of powers of ten. -/
def exponentLimit : Nat := Nat.pow 2 31

/-- Reads the digits of a power of ten. Gives nothing for the power, and what follows the digit
that is one too many, when the power reaches its bound. -/
def powerDigits (power : Nat) : (text : List Char) → Reading Char (Option Nat) (text.length + 1)
  | [] => ⟨some power, [], Nat.zero_lt_one⟩
  | c :: text =>
      if c.isDigit then
        if 10 * power + digitValue c < exponentLimit then
          (powerDigits (10 * power + digitValue c) text).weaken (by simp)
        else ⟨none, text, by simp only [List.length_cons]; omega⟩
      else ⟨some power, c :: text, Nat.lt_succ_self _⟩

/-- Reads a power of ten behind its `e`, and gives the number that it completes. -/
def power (negative : Bool) (significand : Nat) (exponent : Int) (text : List Char) :
    Result JsonNumber (text.length + 1) :=
  let (down, ds) : Bool × { ds : List Char // ds.length ≤ text.length } :=
    match text with
    | '-' :: ds => (true, ⟨ds, Nat.le_succ _⟩)
    | '+' :: ds => (false, ⟨ds, Nat.le_succ _⟩)
    | ds => (false, ⟨ds, Nat.le_refl _⟩)
  match ds with
  | ⟨[], _⟩ => stopAt .endInValue []
  | ⟨d :: more, hd⟩ =>
      if d.isDigit then
        let ten := powerDigits (digitValue d) more
        have hrest : ten.rest.length < text.length + 1 :=
          Nat.lt_succ_of_lt (Nat.lt_of_lt_of_le ten.rest_lt hd)
        match ten.value with
        | some p => scaled negative significand (if down then exponent - p else exponent + p)
            ten.rest hrest
        | none =>
            if significand ≠ 0 ∧ !down then stopAt .numberOutOfRange ten.rest
            else .ok ⟨.double (signed negative (Number.zero .positive)), skipDigits ten.rest,
              Nat.lt_of_le_of_lt (length_skipDigits_le _) hrest⟩
      else stopAfter .invalidNumber (d :: more)

/-- Reads what may follow the digits of a number that is no integer: a power of ten. -/
def afterDigits (negative : Bool) (significand : Nat) (exponent : Int) (text : List Char) :
    Result JsonNumber (text.length + 1) :=
  match text with
  | [] => scaled negative significand exponent [] (Nat.zero_lt_one)
  | c :: more =>
      if c = 'e' ∨ c = 'E' then
        (power negative significand exponent more).map (·.weaken (by simp))
      else scaled negative significand exponent (c :: more) (Nat.lt_succ_self _)

/-- Reads the places behind a point. -/
def places (negative : Bool) (significand : Nat) (exponent : Int) (text : List Char) :
    Result JsonNumber (text.length + 1) :=
  let found := collect ⟨significand, 0⟩ text
  let exponent := exponent - found.value.appended
  if startsWithDigit found.rest then
    (afterDigits negative found.value.significand exponent (skipDigits found.rest)).map
      (·.weaken (Nat.lt_of_le_of_lt (length_skipDigits_le _) found.rest_lt))
  else if found.value.appended = 0 then
    match found.rest with
    | [] => stopAt .endInValue []
    | left => stopAfter .invalidNumber left
  else
    (afterDigits negative found.value.significand exponent found.rest).map
      (·.weaken found.rest_lt)

/-- The number that is the given significand and nothing more. A negative zero and a negative
number below the range of words are doubles. -/
def whole (negative : Bool) (significand : Nat) : JsonNumber :=
  if negative then
    if 1 ≤ significand ∧ significand ≤ Nat.pow 2 63 then .integer (-significand)
    else .double (-(Number.ofInt significand))
  else .integer significand

/-- Reads what follows the digits of the whole part. -/
def afterWhole (negative : Bool) (significand dropped : Nat) (text : List Char) :
    Result JsonNumber (text.length + 1) :=
  match text with
  | '.' :: more => (places negative significand dropped more).map (·.weaken (by simp))
  | text =>
      if dropped = 0 ∧ !(text.head?.any fun c => c = 'e' ∨ c = 'E') then
        .ok ⟨whole negative significand, text, Nat.lt_succ_self _⟩
      else afterDigits negative significand dropped text

/-- Reads a number behind its sign. A zero is the only digit of its whole part. -/
def number (negative : Bool) (text : List Char) : Result JsonNumber text.length :=
  match text with
  | [] => stopAt .endInValue []
  | c :: rest =>
      if c = '0' then
        if startsWithDigit rest then stopAfter .invalidNumber rest
        else afterWhole negative 0 0 rest
      else if c.isDigit then
        let found := collect ⟨digitValue c, 0⟩ rest
        let dropped := (found.rest.takeWhile Char.isDigit).length
        (afterWhole negative found.value.significand dropped (skipDigits found.rest)).map
          (·.weaken (Nat.lt_of_le_of_lt (length_skipDigits_le _) found.rest_lt))
      else stopAfter .invalidNumber (c :: rest)

/-! ## Values -/

mutual

/-- Reads a value. Up to `depth` arrays and objects may be open inside one another. -/
def value (depth : Nat) (text : List Char) : Result Json text.length :=
  match h : skip text with
  | [] => stopAt .endInValue []
  | c :: rest =>
      have hlt : rest.length + 1 ≤ text.length := length_lt_of_skip h
      if c = 'n' then return ((← name ['u', 'l', 'l'] rest).map fun _ => .null).weaken hlt
      else if c = 't' then
        return ((← name ['r', 'u', 'e'] rest).map fun _ => .bool true).weaken hlt
      else if c = 'f' then
        return ((← name ['a', 'l', 's', 'e'] rest).map fun _ => .bool false).weaken hlt
      else if c = '-' then
        return ((← number true rest).map .number).weaken (Nat.le_of_lt hlt)
      else if c.isDigit then
        return ((← number false (c :: rest)).map .number).weaken hlt
      else if c = '"' then
        return ((← stringBody rest).map fun s => .string (String.ofList s)).weaken
          (Nat.le_of_lt hlt)
      else if c = '[' then
        match depth with
        | depth + 1 => return ((← items depth rest).map .array).weaken (Nat.le_of_lt hlt)
        | 0 => stopAfter .recursionLimit (c :: rest)
      else if c = '{' then
        match depth with
        | depth + 1 => return ((← fields depth rest).map fun entries =>
            .object (entries.foldl (fun es e => putEntry e.1 e.2 es) [])).weaken (Nat.le_of_lt hlt)
        | 0 => stopAfter .recursionLimit (c :: rest)
      else stopAfter .expectedValue (c :: rest)
termination_by (text.length, 0)

/-- Reads the items of an array behind its opening bracket, up to and with its closing one. -/
def items (depth : Nat) (text : List Char) : Result (List Json) text.length :=
  match h : skip text with
  | [] => stopAt .endInList []
  | ']' :: rest => .ok ⟨[], rest, length_lt_of_skip h⟩
  | _ => do
      let first ← value depth text
      have := first.rest_lt
      let more ← moreItems depth first.rest
      return ⟨first.value :: more.value, more.rest, Nat.lt_trans more.rest_lt first.rest_lt⟩
termination_by (text.length, 1)

/-- Reads the items of an array behind an item. -/
def moreItems (depth : Nat) (text : List Char) : Result (List Json) text.length :=
  match h : skip text with
  | [] => stopAt .endInList []
  | ']' :: rest => .ok ⟨[], rest, length_lt_of_skip h⟩
  | ',' :: rest =>
      have := length_lt_of_skip h
      match skip rest with
      | [] => stopAt .endInValue []
      | ']' :: left => stopAfter .trailingComma (']' :: left)
      | _ => do
          let first ← value depth rest
          have := first.rest_lt
          let more ← moreItems depth first.rest
          return ⟨first.value :: more.value, more.rest, by have := more.rest_lt; omega⟩
  | left => stopAfter .expectedListEnd left
termination_by (text.length, 1)

/-- Reads the fields of an object behind its opening brace, up to and with its closing one. -/
def fields (depth : Nat) (text : List Char) : Result (List (String × Json)) text.length :=
  match h : skip text with
  | [] => stopAt .endInObject []
  | '}' :: rest => .ok ⟨[], rest, length_lt_of_skip h⟩
  | '"' :: rest => do
      have := length_lt_of_skip h
      let first ← field depth rest
      have := first.rest_lt
      let more ← moreFields depth first.rest
      return ⟨first.value :: more.value, more.rest, by have := more.rest_lt; omega⟩
  | left => stopAfter .keyNotString left
termination_by (text.length, 0)

/-- Reads the fields of an object behind a field. -/
def moreFields (depth : Nat) (text : List Char) : Result (List (String × Json)) text.length :=
  match h : skip text with
  | [] => stopAt .endInObject []
  | '}' :: rest => .ok ⟨[], rest, length_lt_of_skip h⟩
  | ',' :: rest =>
      have := length_lt_of_skip h
      match h' : skip rest with
      | [] => stopAt .endInValue []
      | '}' :: left => stopAfter .trailingComma ('}' :: left)
      | '"' :: inner => do
          have := length_lt_of_skip h'
          let first ← field depth inner
          have := first.rest_lt
          let more ← moreFields depth first.rest
          return ⟨first.value :: more.value, more.rest, by have := more.rest_lt; omega⟩
      | left => stopAfter .keyNotString left
  | left => stopAfter .expectedObjectEnd left
termination_by (text.length, 0)

/-- Reads a field behind the opening quote of its name. -/
def field (depth : Nat) (text : List Char) : Result (String × Json) text.length := do
  let key ← stringBody text
  have := key.rest_lt
  match h : skip key.rest with
  | [] => stopAt .endInObject []
  | ':' :: rest =>
      have := length_lt_of_skip h
      let content ← value depth rest
      return ⟨(String.ofList key.value, content.value), content.rest, by
        have := content.rest_lt; omega⟩
  | left => stopAfter .expectedColon left
termination_by (text.length, 0)

end

/-- The number of arrays and objects that may be open inside one another. -/
def depthLimit : Nat := 127

/-- Reads a text that is one value with spaces around it. -/
def document (text : List Char) : Except Stop Json := do
  let found ← value depthLimit text
  match skip found.rest with
  | [] => return found.value
  | left => stopAfter .trailingCharacters left

end Reader

/-! ## Places -/

/-- A fault with the line and the column of its place. -/
structure ReadError where
  fault : Fault
  line : Nat
  column : Nat
deriving DecidableEq, Repr

/-- The text of an error. -/
def ReadError.message (error : ReadError) : String :=
  error.fault.message ++ " at line " ++ toString error.line ++ " column " ++
    toString error.column

/-- The line and the column after `bytes` more bytes of a text, from a line and a column. -/
def advance : List Char → (bytes line column : Nat) → Nat × Nat
  | [], _, line, column => (line, column)
  | c :: text, bytes, line, column =>
      if bytes = 0 then (line, column)
      else if c = '\n' then advance text (bytes - 1) (line + 1) 0
      else if bytes < c.utf8Size then (line, column + bytes)
      else advance text (bytes - c.utf8Size) line (column + c.utf8Size)

/-- The error that a stop in `text` is. -/
def Reader.Stop.error (stop : Reader.Stop) (text : List Char) : ReadError :=
  let bytes := Text.byteLength text - Text.byteLength stop.left + stop.ahead
  let place := advance text bytes 1 0
  ⟨stop.fault, place.1, place.2⟩

/-- The JSON value of a text. -/
def ofText (text : String) : Except ReadError Json :=
  match Reader.document text.toList with
  | .ok json => .ok json
  | .error stop => .error (stop.error text.toList)

end HttpDoctest.Json
