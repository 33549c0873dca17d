import HttpDoctest.Request.Headers
import HttpDoctest.Request.Method
import HttpDoctest.Request.Rules
import HttpDoctest.Text.Lines
import HttpDoctest.Text.Quoted

set_option autoImplicit false

/-! # Request blocks

A request block writes down one request and what to do with its response: a request line, a
header run closed by a blank line, a body, and trailer lines. A trailer line that starts with
`>` holds an assertion, one that starts with `%` a side effect. Reading a block fails only
over its request line; every later part may be missing, and what no rule takes is left out.
-/

namespace HttpDoctest

/-- A line behind the body that is carried out once the response is there. -/
inductive Trailer where
  | assertion (source : String)
  | sideEffect (source : String)
deriving DecidableEq, Repr

/-- A request as written in a document, with the trailers that follow it. URL, headers and
body may hold placeholders. -/
structure RequestBlock where
  method : Method
  url : String
  headers : Headers
  body : Option String
  trailers : List Trailer
deriving DecidableEq

/-- Why a block is not a request. -/
inductive BlockError where
  /-- The block does not start with a request line but with `context`. -/
  | missingRequestLine (context : String)
  /-- The request line names a method that is not known. -/
  | unsupportedMethod (name : String)
deriving DecidableEq, Repr

/-- The text of an error for the reader of a report. -/
def BlockError.message : BlockError → String
  | missingRequestLine context =>
      "Expected \x60<METHOD> <URL>\x60 at the start of the block, found \"" ++
        String.ofList (Text.asciiOnly context.toList) ++ "\""
  | unsupportedMethod name => "Unsupported request method: " ++ name

/-- The method with the given name, or the complaint that there is none. -/
def Method.ofName (name : String) : Except BlockError Method :=
  match Method.ofName? name with
  | some method => .ok method
  | none => .error (.unsupportedMethod name)

namespace RequestBlock

open Request

/-- The assertions of a block in order. -/
def assertions (block : RequestBlock) : List String :=
  block.trailers.filterMap fun
    | .assertion source => some source
    | .sideEffect _ => none

/-- The side effects of a block in order. -/
def sideEffects (block : RequestBlock) : List String :=
  block.trailers.filterMap fun
    | .sideEffect source => some source
    | .assertion _ => none

/-- How a block that is no request starts: the first sixty characters of its first line. -/
def context (text : List Char) : String :=
  String.ofList ((Text.firstLine text).take 60)

/-- Reads the header run, if there is one. A name that comes again gets its later value. -/
def readHeaders (text : List Char) : Headers × List Char :=
  match headerRun? text with
  | some (run, rest) =>
      let pairs := (headerPairs run).map fun (name, value) =>
        (String.ofList (Text.trim name), String.ofList (Text.trim value))
      (Table.ofList pairs, skipSpaces rest)
  | none => (Table.empty, text)

/-- Reads the body, if there is one. A body of blanks only counts as none. -/
def readBody (text : List Char) : Option String × List Char :=
  match bodyRun? text with
  | some (run, rest) =>
      let body := Text.trim run
      (if body.isEmpty then none else some (String.ofList body), skipSpaces rest)
  | none => (none, text)

/-- The text without the blank lines at its front, and without the spaces behind them. -/
def skipBlankLines (text : List Char) : List Char :=
  match lineEnd? text with
  | some _ => skipSpaces (afterLineEnds text)
  | none => text

/-- The trailer line at the front of the text. -/
def trailerLine? (text : List Char) : Option (Trailer × List Char) :=
  match markedLine? '>' text with
  | some (source, rest) => some (.assertion (String.ofList source), skipSpaces rest)
  | none => match markedLine? '%' text with
    | some (source, rest) => some (.sideEffect (String.ofList source), skipSpaces rest)
    | none => none

theorem length_skipSpaces_le (text : List Char) : (skipSpaces text).length ≤ text.length :=
  (List.dropWhile_sublist _).length_le

theorem length_afterLineEnds_le (text : List Char) :
    (afterLineEnds text).length ≤ text.length := by
  fun_induction afterLineEnds text with
  | case1 text _ rest h hlt ih => exact Nat.le_of_lt (Nat.lt_of_le_of_lt ih hlt)
  | case2 => exact Nat.le_refl _

theorem length_skipBlankLines_le (text : List Char) :
    (skipBlankLines text).length ≤ text.length := by
  unfold skipBlankLines
  split
  · exact Nat.le_trans (length_skipSpaces_le _) (length_afterLineEnds_le _)
  · exact Nat.le_refl _

theorem length_of_markedLine? {mark : Char} {text source rest : List Char}
    (h : markedLine? mark text = some (source, rest)) : rest.length < text.length := by
  unfold markedLine? at h
  split at h
  · cases h
  · next c tail =>
    split at h
    · split at h
      · cases h
      · obtain ⟨⟨found, after⟩, hr, he⟩ := Option.map_eq_some_iff.1 h
        cases he
        have hlt := length_of_lineEnd? hr
        have hle := (List.dropWhile_sublist (l := tail) fun d => d != '\r' && d != '\n').length_le
        simp only [List.length_cons]
        omega
    · cases h

theorem length_of_trailerLine? {text rest : List Char} {trailer : Trailer}
    (h : trailerLine? text = some (trailer, rest)) : rest.length < text.length := by
  unfold trailerLine? at h
  split at h
  · next hm =>
    cases h
    exact Nat.lt_of_le_of_lt (length_skipSpaces_le _) (length_of_markedLine? hm)
  · split at h
    · next hm =>
      cases h
      exact Nat.lt_of_le_of_lt (length_skipSpaces_le _) (length_of_markedLine? hm)
    · cases h

/-- The trailers at the front of the text, up to the first line that is none. Blank lines may
stand in front of each. -/
def readTrailers (text : List Char) : List Trailer :=
  match h : trailerLine? (skipBlankLines text) with
  | some (trailer, rest) =>
      have := length_of_trailerLine? h
      have := length_skipBlankLines_le text
      trailer :: readTrailers rest
  | none => []
termination_by text.length

/-- Reads a block. -/
def read (text : List Char) : Except BlockError RequestBlock :=
  match requestLine? text with
  | none => .error (.missingRequestLine (context text))
  | some (name, url, rest) => do
      let method ← Method.ofName (String.ofList name)
      let (headers, rest) := readHeaders (skipSpaces rest)
      let (body, rest) := readBody rest
      return {
        method := method
        url := String.ofList (Text.trim url)
        headers := headers
        body := body
        trailers := readTrailers rest }

/-- Reads a block given as a string. -/
def ofString (text : String) : Except BlockError RequestBlock :=
  read text.toList

end RequestBlock

end HttpDoctest
