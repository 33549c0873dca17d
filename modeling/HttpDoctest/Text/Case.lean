import HttpDoctest.Text.Case.Table

set_option autoImplicit false

/-! # Upper and lower case

The full case conversions of Unicode on texts: a character may become several (`ß` becomes
`SS`), and a capital sigma becomes `ς` at the end of a word and `σ` elsewhere.
-/

namespace HttpDoctest.Text

/-- Whether a code point lies in one of the ranges, ends included. -/
def inRanges (ranges : List (Nat × Nat)) (n : Nat) : Bool :=
  ranges.any fun (first, last) => first ≤ n && n ≤ last

namespace Case

/-- The image of a code point under the runs, if it lies in one of them. -/
def shifted? (runs : List (Nat × Nat × Nat × Nat)) (n : Nat) : Option Nat :=
  runs.findSome? fun (first, last, step, image) =>
    if first ≤ n && n ≤ last && (n - first) % step == 0 then some (image + (n - first)) else none

/-- A character converted by its expansion if it has one, by its run otherwise. -/
def convert (expansions : List (Nat × List Nat)) (runs : List (Nat × Nat × Nat × Nat))
    (c : Char) : List Char :=
  match expansions.lookup c.toNat with
  | some image => image.map Char.ofNat
  | none => match shifted? runs c.toNat with
    | some image => [Char.ofNat image]
    | none => [c]

/-- The uppercase form of a character. -/
def upper (c : Char) : List Char :=
  if c.toNat < 0x80 then [c.toUpper] else convert upperExpansions upperRuns c

/-- The lowercase form of a character that stands alone. -/
def lower (c : Char) : List Char :=
  if c.toNat < 0x80 then [c.toLower] else convert lowerExpansions lowerRuns c

/-- Whether the text goes on with a cased letter, case-ignorable characters skipped. -/
def reachesCased (text : List Char) : Bool :=
  match text.dropWhile fun c => inRanges caseIgnorableRanges c.toNat with
  | c :: _ => inRanges casedRanges c.toNat
  | [] => false

/-- Lowercases a text that follows `before`, which is given back to front. -/
def lowerFrom (before : List Char) : List Char → List Char
  | [] => []
  | c :: text =>
      let image :=
        if c = 'Σ' then
          if reachesCased before && !reachesCased text then ['ς'] else ['σ']
        else lower c
      image ++ lowerFrom (c :: before) text

end Case

/-- The text in upper case. -/
def toUpper (text : List Char) : List Char :=
  text.flatMap Case.upper

/-- The text in lower case. -/
def toLower (text : List Char) : List Char :=
  Case.lowerFrom [] text

/-- The text with its ASCII letters in lower case. -/
def toAsciiLower (text : List Char) : List Char :=
  text.map Char.toLower

/-- Whether two strings are equal up to the case of ASCII letters. -/
def eqIgnoringAsciiCase (a b : String) : Bool :=
  toAsciiLower a.toList == toAsciiLower b.toList

end HttpDoctest.Text
