set_option autoImplicit false

/-! # Colour sequences

The escape sequences that switch colours on a terminal: an escape character, an opening
bracket, digits and semicolons, and the letter `m`.
-/

namespace HttpDoctest.Ansi

/-- The character that starts an escape sequence. -/
def escape : Char := '\x1b'

/-- Switches to red, the colour of failures. -/
def red : List Char := escape :: "[31m".toList

/-- Switches to green, the colour of success. -/
def green : List Char := escape :: "[32m".toList

/-- Switches to cyan, the colour of bodies. -/
def cyan : List Char := escape :: "[36m".toList

/-- Switches back to the colour of plain text. -/
def reset : List Char := escape :: "[0m".toList

/-- Whether `c` may stand among the parameters of a sequence. -/
def isParameter (c : Char) : Bool :=
  c.isDigit || c == ';'

/-- What follows the colour sequence at the front of a text. -/
def afterSequence? : List Char → Option (List Char)
  | first :: '[' :: text =>
      if first = escape then
        match text.dropWhile isParameter with
        | 'm' :: rest => some rest
        | _ => none
      else none
  | _ => none

theorem length_of_afterSequence? {text rest : List Char} (h : afterSequence? text = some rest) :
    rest.length < text.length := by
  unfold afterSequence? at h
  split at h
  · next tail =>
    split at h
    · split at h
      · next heq =>
        cases h
        have := (List.dropWhile_sublist (l := tail) isParameter).length_le
        rw [heq] at this
        simp only [List.length_cons] at *
        omega
      · cases h
    · cases h
  · cases h

/-- The text without its colour sequences, found from left to right. -/
def strip (text : List Char) : List Char :=
  match h : afterSequence? text with
  | some rest =>
      have := length_of_afterSequence? h
      strip rest
  | none => match text with
    | [] => []
    | c :: tail => c :: strip tail
termination_by text.length

theorem strip_nil : strip [] = [] := by
  rw [strip]; rfl

/-- A sequence at the front is dropped. -/
theorem strip_of_sequence {text rest : List Char} (h : afterSequence? text = some rest) :
    strip text = strip rest := by
  rw [strip]
  split
  · next hr => rw [h] at hr; cases hr; rfl
  · next hn => rw [h] at hn; cases hn

/-- A character that starts no sequence stays. -/
theorem strip_cons_of_none {c : Char} {tail : List Char}
    (h : afterSequence? (c :: tail) = none) : strip (c :: tail) = c :: strip tail := by
  rw [strip]
  split
  · next hr => rw [h] at hr; cases hr
  · rfl

end HttpDoctest.Ansi
