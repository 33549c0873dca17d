set_option autoImplicit false

/-! # Lines

A line feed ends a line. The first line of a text is cut off without its line feed, and
without the carriage return in front of that line feed.
-/

namespace HttpDoctest.Text

/-- The first line of a text without its line end. A carriage return is part of the line end
only in front of a line feed. -/
def firstLine (text : List Char) : List Char :=
  let line := text.takeWhile (· != '\n')
  if line.length = text.length then line
  else match line.getLast? with
    | some '\r' => line.dropLast
    | _ => line

/-- Writes `mark` in front of every line of `text`. -/
def markLines (mark text : List Char) : List Char :=
  mark ++ text.flatMap fun c => if c = '\n' then c :: mark else [c]

/-- The number of line feeds at the end of a text. -/
def trailingLineFeeds (text : List Char) : Nat :=
  (text.reverse.takeWhile (· = '\n')).length

end HttpDoctest.Text
