set_option autoImplicit false

/-! # Blank characters

Which characters count as blank, and how blanks are cut from the ends of a text. A character
is blank when it has the Unicode property `White_Space`; the no-break space is one of them,
the byte order mark and the zero width space are not.
-/

namespace HttpDoctest.Text

/-- Whether `c` has the Unicode property `White_Space`. -/
def isBlank (c : Char) : Bool :=
  let n := c.toNat
  (0x9 ≤ n && n ≤ 0xD) || n == 0x20 || n == 0x85 || n == 0xA0 || n == 0x1680 ||
    (0x2000 ≤ n && n ≤ 0x200A) || n == 0x2028 || n == 0x2029 || n == 0x202F ||
    n == 0x205F || n == 0x3000

/-- The text without the blanks at its start. -/
def trimStart (text : List Char) : List Char :=
  text.dropWhile isBlank

/-- The text without the blanks at its end. -/
def trimEnd (text : List Char) : List Char :=
  (text.reverse.dropWhile isBlank).reverse

/-- The text without the blanks at both ends. -/
def trim (text : List Char) : List Char :=
  trimEnd (trimStart text)

/-- The string without the blanks at both ends. -/
def trimmed (s : String) : String :=
  String.ofList (trim s.toList)

end HttpDoctest.Text
