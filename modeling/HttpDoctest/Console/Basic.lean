import HttpDoctest.Console.Ansi
import HttpDoctest.Console.Sink
import HttpDoctest.Text.Lines

set_option autoImplicit false

/-! # Consoles

A console knows how many line feeds end its output, so that blank lines can be asked for
without ever doubling them. Colour codes are held back until something is written, so that a
reset at the end of a line does not make a line of its own. Codes are not seen: what counts as
the end of the output is what remains without them.
-/

namespace HttpDoctest

/-- A sink refused a chunk or a flush. -/
inductive ConsoleError where
  | closed
deriving DecidableEq, Repr

/-- A console. -/
structure Console where
  sink : Sink
  color : Bool
  /-- The number of line feeds at the end of the output. -/
  lineFeeds : Nat
  /-- Codes not yet written. -/
  held : List Char

/-- An action on a console. An action that fails leaves the console as it was at the failure. -/
abbrev Printing (α : Type) := ExceptT ConsoleError (StateM Console) α

namespace Console

/-- A console on a sink to which nothing was written. -/
def ofSink (sink : Sink) (color : Bool) : Console := ⟨sink, color, 0, []⟩

/-- A code, or nothing on a console without colour. -/
def code (console : Console) (sequence : List Char) : List Char :=
  if console.color then sequence else []

/-- Asks something of the sink, and fails if it refuses. -/
def ask (request : Sink → Bool × Sink) : Printing Unit := do
  let console ← get
  let (accepted, sink) := request console.sink
  set { console with sink := sink }
  if accepted then return () else throw .closed

/-- Writes a chunk to the sink. -/
def write (chunk : List Char) : Printing Unit :=
  ask (·.write chunk)

/-- Writes what it takes for the output to end in `count` line feeds. -/
def insertLineFeeds (count : Nat) : Printing Unit := do
  let console ← get
  if console.lineFeeds < count then
    write (List.replicate (count - console.lineFeeds) '\n')
    modify fun console => { console with lineFeeds := count }

/-- Holds a code for the next time that something is written. -/
def format (sequence : List Char) : Printing Unit :=
  modify fun console => { console with held := console.held ++ console.code sequence }

/-- Writes the codes held. They are given up even if the sink refuses them. -/
def release : Printing Unit := do
  let console ← get
  set { console with held := [] }
  write console.held

/-- The number of line feeds at the end of an output that ended in `before` of them, after a
text. A text of line feeds alone adds to them. -/
def lineFeedsAfter (before : Nat) (text : List Char) : Nat :=
  let visible := Ansi.strip text
  let trailing := Text.trailingLineFeeds visible
  if trailing = visible.length then before + trailing else trailing

/-- Writes the codes held, then a text and a line feed. -/
def log (text : List Char) : Printing Unit := do
  release
  write (text ++ ['\n'])
  modify fun console =>
    { console with lineFeeds := lineFeedsAfter console.lineFeeds (text ++ ['\n']) }

/-- Writes the codes held although nothing follows, and flushes the sink. -/
def flush : Printing Unit := do
  release
  ask Sink.flush

/-- Flushes, and forgets the line feeds at the end of the output. -/
def reset : Printing Unit := do
  flush
  modify fun console => { console with lineFeeds := 0 }

end Console

end HttpDoctest
