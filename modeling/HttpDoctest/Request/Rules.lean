import HttpDoctest.Text.Blank

set_option autoImplicit false

/-! # The rules of a request block

A request block is read by rules that each take a piece off the front of what is left: the
request line, the header run, the body, blank lines, and the two kinds of trailer lines. A
rule gives what it found and what follows, or nothing if it does not apply. The characters
`>` and `%` start trailers, so no header run and no body holds one of them.
-/

namespace HttpDoctest.Request

/-- Whether `c` may stand in a header run or in a body. -/
def isPlain (c : Char) : Bool :=
  c != '>' && c != '%'

/-- The text without the plain spaces at its start. Tabs and line feeds stay. -/
def skipSpaces (text : List Char) : List Char :=
  text.dropWhile (· == ' ')

/-- A line end at the front of the text, a line feed with or without a carriage return in front
of it. Gives the line end as written, and what follows. -/
def lineEnd? : List Char → Option (List Char × List Char)
  | '\n' :: rest => some (['\n'], rest)
  | '\r' :: '\n' :: rest => some (['\r', '\n'], rest)
  | _ => none

theorem length_of_lineEnd? {text found rest : List Char} (h : lineEnd? text = some (found, rest)) :
    rest.length < text.length := by
  unfold lineEnd? at h
  split at h <;> cases h <;> simp only [List.length_cons] <;> omega

/-! ## The request line -/

/-- A text of at least one character up to a line feed, and what follows the line feed. -/
def restOfLine? (text : List Char) : Option (List Char × List Char) :=
  match text.takeWhile (· != '\n'), text.dropWhile (· != '\n') with
  | [], _ => none
  | line, '\n' :: rest => some (line, rest)
  | _, _ => none

/-- The URL that follows a run of one or more blanks. The run is as long as the rest of the
rule allows; it may go over line ends. -/
def urlAfterBlanks? : List Char → Option (List Char × List Char)
  | [] => none
  | c :: text =>
      if Text.isBlank c then (urlAfterBlanks? text).or (restOfLine? text) else none

/-- A request line: capital letters, blanks, a URL, a line feed. Gives the method name, the
URL as written, and what follows. -/
def requestLine? (text : List Char) : Option (List Char × List Char × List Char) :=
  match text.takeWhile Char.isUpper with
  | [] => none
  | name => (urlAfterBlanks? (text.dropWhile Char.isUpper)).map
      fun (url, rest) => (name, url, rest)

/-! ## Headers -/

/-- Two line ends in a row. Gives them as written, and what follows. -/
def doubleLineEnd? (text : List Char) : Option (List Char × List Char) :=
  match lineEnd? text with
  | some (first, between) => (lineEnd? between).map fun (second, rest) => (first ++ second, rest)
  | none => none

/-- The shortest run of plain characters, at least one, that is followed by two line ends.
Gives the run with its line ends, and what follows. -/
def headerRun? : List Char → Option (List Char × List Char)
  | [] => none
  | c :: text =>
      if isPlain c then
        match doubleLineEnd? text with
        | some (ends, rest) => some (c :: ends, rest)
        | none => (headerRun? text).map fun (run, rest) => (c :: run, rest)
      else none

/-- The name and value pairs of a header run. A name is what stands in front of a colon and
may span lines; a value goes on to the end of its line and is not empty. A colon that has no
name or no value is passed over, and the search goes on behind it. -/
def headerPairs (run : List Char) : List (List Char × List Char) :=
  match h : run.dropWhile (· != ':') with
  | [] => []
  | _ :: after =>
      have : after.length < run.length := by
        have := (List.dropWhile_sublist (l := run) (· != ':')).length_le
        rw [h, List.length_cons] at this
        omega
      let name := run.takeWhile (· != ':')
      match name, h' : after.dropWhile (· != '\n'), after.takeWhile (· != '\n') with
      | _ :: _, _ :: rest, value@(_ :: _) =>
          have : rest.length < run.length := by
            have := (List.dropWhile_sublist (l := after) (· != '\n')).length_le
            rw [h', List.length_cons] at this
            omega
          (name, value) :: headerPairs rest
      | _, _, _ => headerPairs after
termination_by run.length

/-! ## Body and trailers -/

/-- The longest run of plain characters that ends in a line feed and holds something in front
of that line feed. Gives the run, and what follows. -/
def bodyRun? (text : List Char) : Option (List Char × List Char) :=
  let run := ((text.takeWhile isPlain).reverse.dropWhile (· != '\n')).reverse
  if 2 ≤ run.length then some (run, text.drop run.length) else none

/-- What follows all line ends at the front of the text. -/
def afterLineEnds (text : List Char) : List Char :=
  match h : lineEnd? text with
  | some (_, rest) =>
      have := length_of_lineEnd? h
      afterLineEnds rest
  | none => text
termination_by text.length

/-- A line that starts with `mark`: what stands between the mark and the line end, at least one
character, and what follows the line end. -/
def markedLine? (mark : Char) : List Char → Option (List Char × List Char)
  | [] => none
  | c :: text =>
      if c = mark then
        match text.takeWhile fun d => d != '\r' && d != '\n' with
        | [] => none
        | source => (lineEnd? (text.dropWhile fun d => d != '\r' && d != '\n')).map
            fun (_, rest) => (source, rest)
      else none

end HttpDoctest.Request
