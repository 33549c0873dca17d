import HttpDoctest.Json.Basic
import HttpDoctest.Number.Layout

set_option autoImplicit false

/-! # JSON text

One writer for two styles: `compact` without any blanks, and `pretty` with one item a line,
two spaces deeper for each level. Strings keep every character but quotes, backslashes and
control characters.
-/

namespace HttpDoctest.Json

/-- The escape of a control character by its code point, in four digits. -/
def controlEscape (c : Char) : List Char :=
  let ds := Nat.toDigits 16 c.toNat
  ['\\', 'u'] ++ List.replicate (4 - ds.length) '0' ++ ds

/-- A character inside a string literal. -/
def stringChar (c : Char) : List Char :=
  if c = '"' ∨ c = '\\' then ['\\', c]
  else if c = '\x08' then ['\\', 'b']
  else if c = '\x0c' then ['\\', 'f']
  else if c = '\n' then ['\\', 'n']
  else if c = '\r' then ['\\', 'r']
  else if c = '\t' then ['\\', 't']
  else if c.toNat < 0x20 then controlEscape c
  else [c]

/-- A string literal. -/
def stringText (s : String) : List Char :=
  '"' :: s.toList.flatMap stringChar ++ ['"']

/-- A number. -/
def numberText : JsonNumber → List Char
  | .integer n => Number.intText n
  | .double x => Number.jsonText x

/-- What stands between the tokens of a text: a break in front of every item and closing
bracket, by the depth of what follows it, and the separator of name and value. -/
structure Style where
  lineBreak : Nat → List Char
  colon : List Char

/-- No blanks at all. -/
def Style.compact : Style where
  lineBreak _ := []
  colon := [':']

/-- One item a line, two spaces deeper for each level. -/
def Style.pretty : Style where
  lineBreak depth := '\n' :: List.replicate (2 * depth) ' '
  colon := [':', ' ']

mutual

/-- Writes a value that stands at the given depth. -/
def write (style : Style) (depth : Nat) : Json → List Char
  | null => "null".toList
  | bool true => "true".toList
  | bool false => "false".toList
  | number n => numberText n
  | string s => stringText s
  | array [] => ['[', ']']
  | array (item :: items) =>
      '[' :: style.lineBreak (depth + 1) ++ write style (depth + 1) item ++
        writeItems style (depth + 1) items ++ style.lineBreak depth ++ [']']
  | object [] => ['{', '}']
  | object ((name, value) :: fields) =>
      '{' :: style.lineBreak (depth + 1) ++ stringText name ++ style.colon ++
        write style (depth + 1) value ++
        writeFields style (depth + 1) fields ++ style.lineBreak depth ++ ['}']

/-- Writes the items after the first. -/
def writeItems (style : Style) (depth : Nat) : List Json → List Char
  | [] => []
  | item :: items =>
      ',' :: style.lineBreak depth ++ write style depth item ++ writeItems style depth items

/-- Writes the fields after the first. -/
def writeFields (style : Style) (depth : Nat) : List (String × Json) → List Char
  | [] => []
  | (name, value) :: fields =>
      ',' :: style.lineBreak depth ++ stringText name ++ style.colon ++
        write style depth value ++ writeFields style depth fields

end

/-- The text of a value without any blanks. -/
def compact (json : Json) : String :=
  String.ofList (json.write .compact 0)

/-- The text of a value with one item a line. -/
def pretty (json : Json) : String :=
  String.ofList (json.write .pretty 0)

end HttpDoctest.Json
