import HttpDoctest.Text.Case
import HttpDoctest.Text.Printable.Table

set_option autoImplicit false

/-! # Quoting text inside messages

Two ways to show a text so that nothing in it is invisible. `quoted` is for text of any
script: it keeps printable characters, and `asciiOnly` keeps printable ASCII characters only.
What is not kept is written as a backslash escape.
-/

namespace HttpDoctest.Text

/-- The digits of `n` in base sixteen, in lower case, without leading zeros. -/
def hexDigits (n : Nat) : List Char :=
  Nat.toDigits 16 n

/-- A character written by its code point: `\u`, then its base sixteen digits in braces. -/
def codePointEscape (c : Char) : List Char :=
  ['\\', 'u', '{'] ++ hexDigits c.toNat ++ ['}']

/-- Whether a character is shown as it is: it has a printed form that does not attach to the
character in front of it. -/
def isPlainlyPrintable (c : Char) : Bool :=
  !inRanges Printable.unprintableRanges c.toNat &&
    !inRanges Printable.graphemeExtendRanges c.toNat

/-- A character inside double quotes. -/
def quotedChar (c : Char) : List Char :=
  if c = '\x00' then ['\\', '0']
  else if c = '\t' then ['\\', 't']
  else if c = '\r' then ['\\', 'r']
  else if c = '\n' then ['\\', 'n']
  else if c = '\\' ∨ c = '"' then ['\\', c]
  else if isPlainlyPrintable c then [c]
  else codePointEscape c

/-- A text in double quotes, with every invisible character escaped. -/
def quoted (text : List Char) : List Char :=
  '"' :: text.flatMap quotedChar ++ ['"']

/-- A character reduced to printable ASCII. -/
def asciiChar (c : Char) : List Char :=
  if c = '\t' then ['\\', 't']
  else if c = '\r' then ['\\', 'r']
  else if c = '\n' then ['\\', 'n']
  else if c = '\\' ∨ c = '"' ∨ c = '\x27' then ['\\', c]
  else if 0x20 ≤ c.toNat ∧ c.toNat ≤ 0x7E then [c]
  else codePointEscape c

/-- A text with everything but printable ASCII escaped, quotes and backslashes too. -/
def asciiOnly (text : List Char) : List Char :=
  text.flatMap asciiChar

end HttpDoctest.Text
