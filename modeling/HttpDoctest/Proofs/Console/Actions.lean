import HttpDoctest.Console.Basic
import HttpDoctest.Proofs.Console.Codes
import HttpDoctest.Proofs.Execution

set_option autoImplicit false

/-! # What a console writes

All that is ever asked of a console is one of five actions. On a console whose sink takes every
chunk no action fails. What a sequence of actions adds to the sink is, as far as it is neither
codes nor line feeds, the logged texts in order (`reports_afterAll`).
-/

namespace HttpDoctest

/-! ## Sinks that take everything -/

namespace Sink

/-- Whether a sink never refuses anything. -/
def TakesAll (sink : Sink) : Prop :=
  ∀ attempts chunk, sink.accepts attempts chunk = true

/-- The chunks that a sink took, in the order of writing. -/
def taken (sink : Sink) : List (List Char) :=
  (sink.attempts.reverse.filter fun attempt => attempt.accepted && !attempt.chunk.isEmpty).map
    (·.chunk)

theorem takesAll_unlimited : unlimited.TakesAll := fun _ _ => rfl

theorem TakesAll.write_fst {sink : Sink} (h : sink.TakesAll) (chunk : List Char) :
    (sink.write chunk).1 = true := by
  unfold write
  split
  · rfl
  · exact h _ _

theorem TakesAll.write_snd {sink : Sink} (h : sink.TakesAll) (chunk : List Char) :
    (sink.write chunk).2.TakesAll := by
  unfold write
  split
  · exact h
  · exact fun attempts chunk => h attempts chunk

theorem TakesAll.flush_fst {sink : Sink} (h : sink.TakesAll) : sink.flush.1 = true :=
  h _ _

theorem TakesAll.flush_snd {sink : Sink} (h : sink.TakesAll) : sink.flush.2.TakesAll :=
  fun attempts chunk => h attempts chunk

/-- A flush is no chunk, whether it is refused or not. -/
theorem taken_flush (sink : Sink) : sink.flush.2.taken = sink.taken := by
  simp [flush, attempt, taken]

/-- The sink that attempts to write chunks leave. -/
def writeAll (sink : Sink) (chunks : List (List Char)) : Sink :=
  chunks.foldl (fun sink chunk => (sink.write chunk).2) sink

theorem TakesAll.writeAll {sink : Sink} (h : sink.TakesAll) (chunks : List (List Char)) :
    (sink.writeAll chunks).TakesAll := by
  induction chunks generalizing sink with
  | nil => exact h
  | cons chunk chunks ih => exact ih (h.write_snd chunk)

/-- All chunks are taken, and the empty ones leave no trace. -/
theorem TakesAll.taken_writeAll {sink : Sink} (h : sink.TakesAll) (chunks : List (List Char)) :
    (sink.writeAll chunks).taken = sink.taken ++ chunks.filter (!·.isEmpty) := by
  induction chunks generalizing sink with
  | nil => exact (List.append_nil _).symm
  | cons chunk chunks ih =>
      have hwrite : (sink.write chunk).2.taken = sink.taken ++ [chunk].filter (!·.isEmpty) := by
        unfold write
        split
        · next hempty => simp [hempty]
        · next hempty => simp [taken, attempt, h sink.attempts chunk, hempty]
      show ((sink.write chunk).2.writeAll chunks).taken = _
      rw [ih (h.write_snd chunk), hwrite, List.append_assoc, ← List.filter_append]
      rfl

end Sink

namespace Console

/-! ## Actions -/

/-- What can be asked of a console. -/
inductive Action where
  | log (text : List Char)
  | insertLineFeeds (count : Nat)
  | format (sequence : List Char)
  | flush
  | reset
deriving DecidableEq, Repr

namespace Action

/-- Carries out an action. -/
def perform : Action → Printing Unit
  | log text => Console.log text
  | insertLineFeeds count => Console.insertLineFeeds count
  | format sequence => Console.format sequence
  | flush => Console.flush
  | reset => Console.reset

/-- The chunks that an action writes to a console. -/
def chunks (console : Console) : Action → List (List Char)
  | log text => [console.held, text ++ ['\n']]
  | insertLineFeeds count => [List.replicate (count - console.lineFeeds) '\n']
  | format _ => []
  | flush => [console.held]
  | reset => [console.held]

/-- Whether an action flushes the sink behind its chunks. -/
def flushes : Action → Bool
  | log _ => false
  | insertLineFeeds _ => false
  | format _ => false
  | flush => true
  | reset => true

/-- The sink that an action leaves where nothing is refused. -/
def sink (console : Console) (action : Action) : Sink :=
  let sink := console.sink.writeAll (action.chunks console)
  if action.flushes then sink.flush.2 else sink

theorem takesAll_sink {console : Console} (h : console.sink.TakesAll) (action : Action) :
    (action.sink console).TakesAll := by
  unfold sink
  dsimp only
  split
  · exact (h.writeAll _).flush_snd
  · exact h.writeAll _

theorem taken_sink {console : Console} (h : console.sink.TakesAll) (action : Action) :
    (action.sink console).taken =
      console.sink.taken ++ (action.chunks console).filter (!·.isEmpty) := by
  rw [← h.taken_writeAll]
  unfold sink
  dsimp only
  split
  · exact Sink.taken_flush _
  · rfl

/-- The codes that a console holds after an action. -/
def held (console : Console) : Action → List Char
  | log _ => []
  | insertLineFeeds _ => console.held
  | format sequence => console.held ++ console.code sequence
  | flush => []
  | reset => []

/-- The text that an action logs, with its line feed. -/
def logged : Action → List (List Char)
  | log text => [text ++ ['\n']]
  | _ => []

/-- Whether an action holds back nothing but codes. -/
def Colours : Action → Prop
  | format sequence => Ansi.strip sequence = []
  | _ => True

end Action

/-- The console that an action leaves. -/
def after (console : Console) (action : Action) : Console :=
  (exec action.perform console).2

/-- The console that a sequence of actions leaves. -/
def afterAll (console : Console) (actions : List Action) : Console :=
  actions.foldl after console

@[simp] theorem afterAll_nil (console : Console) : console.afterAll [] = console := rfl

@[simp] theorem afterAll_cons (console : Console) (action : Action) (actions : List Action) :
    console.afterAll (action :: actions) = (console.after action).afterAll actions := rfl

theorem afterAll_append (console : Console) (first second : List Action) :
    console.afterAll (first ++ second) = (console.afterAll first).afterAll second :=
  List.foldl_append

/-! ## Writing -/

theorem exec_ask_eq (request : Sink → Bool × Sink) (console : Console) :
    exec (ask request) console =
      (if (request console.sink).1 then .ok () else .error .closed,
        { console with sink := (request console.sink).2 }) := by
  rw [ask, exec_bind_of_ok (exec_get console)]
  cases haccepted : (request console.sink).1 <;> simp only [haccepted] <;> rfl

theorem exec_release_eq (console : Console) :
    exec release console = exec (write console.held) { console with held := [] } :=
  exec_bind_of_ok (exec_get console) _

/-! ## Actions on a sink that takes everything -/

section TakesAll

variable {console : Console} (h : console.sink.TakesAll)
include h

theorem exec_write (chunk : List Char) :
    exec (write chunk) console =
      (.ok (), { console with sink := (console.sink.write chunk).2 }) := by
  rw [write, exec_ask_eq, if_pos (h.write_fst chunk)]

theorem exec_release :
    exec release console =
      (.ok (), { console with sink := (console.sink.write console.held).2, held := [] }) := by
  rw [exec_release_eq, write, exec_ask_eq, if_pos (h.write_fst console.held)]

theorem exec_log (text : List Char) :
    exec (log text) console =
      (.ok (), { console with
        sink := ((console.sink.write console.held).2.write (text ++ ['\n'])).2
        held := []
        lineFeeds := lineFeedsAfter console.lineFeeds (text ++ ['\n']) }) := by
  refine (exec_bind_of_ok (exec_release h) _).trans ?_
  exact exec_bind_of_ok (exec_write (h.write_snd console.held) _) _

theorem exec_insertLineFeeds (count : Nat) :
    exec (insertLineFeeds count) console =
      (.ok (), if console.lineFeeds < count then
        { console with
          sink := (console.sink.write (List.replicate (count - console.lineFeeds) '\n')).2
          lineFeeds := count }
        else console) := by
  rw [insertLineFeeds, exec_bind_of_ok (exec_get console)]
  split
  · exact exec_bind_of_ok (exec_write h _) _
  · rfl

theorem exec_flush :
    exec flush console =
      (.ok (), { console with
        sink := (console.sink.write console.held).2.flush.2
        held := [] }) := by
  refine (exec_bind_of_ok (exec_release h) _).trans ?_
  rw [exec_ask_eq, if_pos (h.write_snd console.held).flush_fst]

theorem exec_reset :
    exec reset console =
      (.ok (), { console with
        sink := (console.sink.write console.held).2.flush.2
        held := []
        lineFeeds := 0 }) :=
  exec_bind_of_ok (exec_flush h) _

/-- No action fails, and each writes its chunks. -/
theorem exec_perform (action : Action) :
    exec action.perform console =
      (.ok (), { console with
        sink := action.sink console
        held := action.held console
        lineFeeds := (console.after action).lineFeeds }) := by
  unfold after
  cases action with
  | log text =>
      rw [Action.perform, exec_log h]
      rfl
  | insertLineFeeds count =>
      rw [Action.perform, exec_insertLineFeeds h]
      dsimp only
      split
      · rfl
      · next hle =>
        have hnone : count - console.lineFeeds = 0 := Nat.sub_eq_zero_of_le (Nat.not_lt.1 hle)
        simp only [Action.sink, Action.chunks, hnone]
        rfl
  | format sequence => rfl
  | flush =>
      rw [Action.perform, exec_flush h]
      rfl
  | reset =>
      rw [Action.perform, exec_reset h]
      rfl

theorem sink_after (action : Action) : (console.after action).sink = action.sink console := by
  rw [after, exec_perform h]

theorem takesAll_after (action : Action) : (console.after action).sink.TakesAll := by
  rw [sink_after h]
  exact action.takesAll_sink h

theorem held_after (action : Action) : (console.after action).held = action.held console := by
  rw [after, exec_perform h]

theorem color_after (action : Action) : (console.after action).color = console.color := by
  rw [after, exec_perform h]

theorem exec_perform_after (action : Action) :
    exec action.perform console = (.ok (), console.after action) := by
  rw [after, exec_perform h]

end TakesAll

/-! ## Open consoles -/

/-- A console that never fails and holds nothing but codes. -/
structure Open (console : Console) : Prop where
  takesAll : console.sink.TakesAll
  holdsCodes : Ansi.strip console.held = []

theorem open_ofSink {sink : Sink} (h : sink.TakesAll) (color : Bool) : (ofSink sink color).Open :=
  ⟨h, Ansi.strip_nil⟩

/-- An open console stays open under actions that hold back nothing but codes. -/
theorem Open.after {console : Console} (h : console.Open) {action : Action}
    (hcolours : action.Colours) : (console.after action).Open where
  takesAll := takesAll_after h.takesAll action
  holdsCodes := by
    rw [held_after h.takesAll]
    cases action with
    | insertLineFeeds count => exact h.holdsCodes
    | format sequence =>
        rw [Action.held, Ansi.strip_append_of_strip_eq_nil h.holdsCodes, code]
        split
        · exact hcolours
        · exact Ansi.strip_nil
    | log text => exact Ansi.strip_nil
    | flush => exact Ansi.strip_nil
    | reset => exact Ansi.strip_nil

theorem Open.afterAll {console : Console} (h : console.Open) {actions : List Action}
    (hcolours : ∀ action ∈ actions, action.Colours) : (console.afterAll actions).Open := by
  induction actions generalizing console with
  | nil => exact h
  | cons action actions ih =>
      exact ih (h.after (hcolours action List.mem_cons_self))
        fun a ha => hcolours a (List.mem_cons_of_mem _ ha)

/-- The chunks on the sink of a console that start with `mark`. -/
def reports (mark : List Char) (console : Console) : List (List Char) :=
  console.sink.taken.filter (Ansi.opensWith mark)

/-- Codes and line feeds are no reports, whatever their mark is. -/
theorem Open.reports_after {console : Console} (h : console.Open) {m : Char} (hm : m ≠ '\n')
    (mark : List Char) (action : Action) :
    reports (m :: mark) (console.after action) =
      reports (m :: mark) console ++ action.logged.filter (Ansi.opensWith (m :: mark)) := by
  have hheld : Ansi.opensWith (m :: mark) console.held = false :=
    Ansi.opensWith_of_strip_eq_nil h.holdsCodes
  -- a chunk of line feeds shows its first character, which no mark starts with
  have hfeeds : ∀ count, Ansi.opensWith (m :: mark) (List.replicate count '\n') = false := by
    intro count
    cases count with
    | zero => exact Ansi.opensWith_of_strip_eq_nil Ansi.strip_nil
    | succ count => exact Ansi.opensWith_cons_of_ne (by decide) hm _ _
  rw [reports, sink_after h.takesAll, action.taken_sink h.takesAll, List.filter_append,
    List.filter_filter]
  cases action with
  | log text => simp [Action.chunks, Action.logged, reports, List.filter_cons, hheld]
  | insertLineFeeds count => simp [Action.chunks, Action.logged, reports, hfeeds]
  | format sequence => simp [Action.chunks, Action.logged, reports]
  | flush => simp [Action.chunks, Action.logged, reports, hheld]
  | reset => simp [Action.chunks, Action.logged, reports, hheld]

theorem Open.reports_afterAll {console : Console} (h : console.Open) {m : Char} (hm : m ≠ '\n')
    (mark : List Char) {actions : List Action} (hcolours : ∀ action ∈ actions, action.Colours) :
    reports (m :: mark) (console.afterAll actions) =
      reports (m :: mark) console ++
        (actions.flatMap Action.logged).filter (Ansi.opensWith (m :: mark)) := by
  induction actions generalizing console with
  | nil => exact (List.append_nil _).symm
  | cons action actions ih =>
      have hrest : ∀ a ∈ actions, a.Colours := fun a ha => hcolours a (List.mem_cons_of_mem _ ha)
      rw [afterAll_cons, ih (h.after (hcolours action List.mem_cons_self)) hrest,
        h.reports_after hm, List.append_assoc, ← List.filter_append, List.flatMap_cons]

end Console

end HttpDoctest
