import HttpDoctest.Text.Search

set_option autoImplicit false

/-! # Sinks

Where the characters of a console go. A sink takes a chunk whole or refuses it whole, and may
take later chunks after it refused one. It may be flushed, that is, asked to pass on what it
took, and may refuse that too. It remembers every attempt, so that what was written and what was
lost can both be told afterwards.
-/

namespace HttpDoctest

/-- The attempt to write a chunk. An empty chunk is never written: the attempt of one is a
flush. -/
structure WriteAttempt where
  chunk : List Char
  accepted : Bool
deriving DecidableEq, Repr

/-- A sink: whether it takes a chunk after the attempts so far, and these attempts, both with
the latest attempt first. -/
structure Sink where
  accepts : List WriteAttempt → List Char → Bool
  attempts : List WriteAttempt

namespace Sink

/-- A sink that takes everything. -/
def unlimited : Sink := ⟨fun _ _ => true, []⟩

/-- The number of bytes that were taken. -/
def bytesTaken : List WriteAttempt → Nat
  | [] => 0
  | attempt :: attempts =>
      (if attempt.accepted then Text.byteLength attempt.chunk else 0) + bytesTaken attempts

/-- A sink that takes a chunk as long as its bytes stay within `limit` in all. -/
def limited (limit : Nat) : Sink :=
  ⟨fun attempts chunk => bytesTaken attempts + Text.byteLength chunk ≤ limit, []⟩

/-- Makes an attempt, and tells whether it was accepted. -/
def attempt (sink : Sink) (chunk : List Char) : Bool × Sink :=
  let accepted := sink.accepts sink.attempts chunk
  (accepted, { sink with attempts := ⟨chunk, accepted⟩ :: sink.attempts })

/-- Writes a chunk, and tells whether it was taken. An empty chunk does not reach the sink. -/
def write (sink : Sink) (chunk : List Char) : Bool × Sink :=
  if chunk.isEmpty then (true, sink) else sink.attempt chunk

/-- Flushes the sink, and tells whether it did as it was asked. -/
def flush (sink : Sink) : Bool × Sink :=
  sink.attempt []

/-- All that was taken, in the order of writing. -/
def written (sink : Sink) : List Char :=
  sink.attempts.reverse.flatMap fun attempt => if attempt.accepted then attempt.chunk else []

end Sink

end HttpDoctest
