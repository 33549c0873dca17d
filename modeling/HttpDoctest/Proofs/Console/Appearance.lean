import HttpDoctest.Proofs.Console.Pieces
import HttpDoctest.Proofs.Console.Writes
import Mathlib.Data.List.Forall2

set_option autoImplicit false

/-! # What is seen of a console

On a sink that takes everything, what actions print is seen without its colour sequences as what is
seen of each of them (`Open.strip_printed`): codes that are held and chunks that are written do not
come together to new sequences, whatever the logged texts hold. So lists of actions that look alike
one by one look alike as a whole, and it makes no difference which codes they hold.
-/

namespace HttpDoctest

theorem Sink.TakesAll.written_writeAll {sink : Sink} (h : sink.TakesAll)
    (chunks : List (List Char)) :
    (sink.writeAll chunks).written = sink.written ++ chunks.flatten := by
  induction chunks generalizing sink with
  | nil => exact (List.append_nil _).symm
  | cons chunk chunks ih =>
      have hwrite := sink.written_write chunk
      rw [h.write_fst chunk, if_pos rfl] at hwrite
      show ((sink.write chunk).2.writeAll chunks).written = _
      rw [ih (h.write_snd chunk), hwrite, List.append_assoc, List.flatten_cons]

namespace Console

/-! ## What actions print -/

theorem Action.written_sink {console : Console} (h : console.sink.TakesAll) (action : Action) :
    (action.sink console).written = console.sink.written ++ (action.chunks console).flatten := by
  rw [← h.written_writeAll]
  unfold sink
  dsimp only
  split
  · exact Sink.written_of_flush rfl
  · rfl

/-- The text that actions print on a sink that takes everything. -/
def printed (console : Console) : List Action → List Char
  | [] => []
  | action :: actions => (action.chunks console).flatten ++ printed (console.after action) actions

theorem written_afterAll {console : Console} (h : console.sink.TakesAll) (actions : List Action) :
    (console.afterAll actions).sink.written = console.sink.written ++ console.printed actions := by
  induction actions generalizing console with
  | nil => exact (List.append_nil _).symm
  | cons action actions ih =>
      rw [afterAll_cons, ih (takesAll_after h action), sink_after h, action.written_sink h,
        List.append_assoc]
      rfl

theorem wrote_afterAll {console : Console} (h : console.sink.TakesAll) (actions : List Action) :
    wrote console (console.afterAll actions) = console.printed actions :=
  wrote_eq (written_afterAll h actions)

/-! ## What is seen of actions -/

namespace Action

/-- What is seen of an action behind a number of line feeds. -/
def seen (lineFeeds : Nat) : Action → List Char
  | log text => Ansi.strip (text ++ ['\n'])
  | insertLineFeeds count => List.replicate (count - lineFeeds) '\n'
  | _ => []

/-- The line feeds counted behind an action. -/
def count (lineFeeds : Nat) : Action → Nat
  | log text => lineFeedsAfter lineFeeds (text ++ ['\n'])
  | insertLineFeeds count => max lineFeeds count
  | reset => 0
  | _ => lineFeeds

/-- What is seen of actions one after the other. -/
def seenAll (lineFeeds : Nat) : List Action → List Char
  | [] => []
  | action :: actions => action.seen lineFeeds ++ seenAll (action.count lineFeeds) actions

/-- The line feeds counted behind actions. -/
def countAll (lineFeeds : Nat) (actions : List Action) : Nat :=
  actions.foldl count lineFeeds

/-- Whether the same is seen of two actions, whatever is in front of them. -/
structure Alike (action action' : Action) : Prop where
  seen : ∀ lineFeeds, action.seen lineFeeds = action'.seen lineFeeds
  count : ∀ lineFeeds, action.count lineFeeds = action'.count lineFeeds

theorem Alike.refl (action : Action) : Alike action action := ⟨fun _ => rfl, fun _ => rfl⟩

/-- Texts that differ in their colours only are counted alike. -/
theorem alike_log {text text' : List Char}
    (h : Ansi.strip (text ++ ['\n']) = Ansi.strip (text' ++ ['\n'])) :
    Alike (log text) (log text') where
  seen _ := h
  count lineFeeds := by
    rw [count, count, lineFeedsAfter, lineFeedsAfter, h]

theorem seenAll_congr {actions actions' : List Action} (h : List.Forall₂ Alike actions actions')
    (lineFeeds : Nat) : seenAll lineFeeds actions = seenAll lineFeeds actions' := by
  induction h generalizing lineFeeds with
  | nil => rfl
  | cons halike _ ih => rw [seenAll, seenAll, halike.seen, halike.count, ih]

theorem countAll_congr {actions actions' : List Action} (h : List.Forall₂ Alike actions actions')
    (lineFeeds : Nat) : countAll lineFeeds actions = countAll lineFeeds actions' := by
  induction h generalizing lineFeeds with
  | nil => rfl
  | cons halike _ ih =>
      rw [countAll, List.foldl_cons, halike.count]
      exact ih _

end Action

/-! ## Open consoles -/

theorem lineFeeds_after {console : Console} (h : console.sink.TakesAll) (action : Action) :
    (console.after action).lineFeeds = action.count console.lineFeeds := by
  unfold after
  cases action with
  | log text => rw [Action.perform, exec_log h]; rfl
  | insertLineFeeds count =>
      rw [Action.perform, exec_insertLineFeeds h, Action.count]
      dsimp only
      split
      · next hmissing => exact (Nat.max_eq_right (Nat.le_of_lt hmissing)).symm
      · next hmissing => exact (Nat.max_eq_left (Nat.not_lt.1 hmissing)).symm
  | format sequence => rfl
  | flush => rw [Action.perform, exec_flush h]; rfl
  | reset => rw [Action.perform, exec_reset h]; rfl

namespace Open

variable {console : Console} (h : console.Open)
include h

theorem whole_held : Ansi.Whole console.held :=
  Ansi.whole_of_strip_eq_nil h.holdsCodes

theorem whole_chunks (action : Action) : Ansi.Whole (action.chunks console).flatten := by
  cases action with
  | log text =>
      rw [Action.chunks, List.flatten_cons, List.flatten_singleton]
      exact h.whole_held.append (Ansi.whole_line text)
  | insertLineFeeds count =>
      rw [Action.chunks, List.flatten_singleton]
      exact Ansi.whole_lineFeeds _
  | format sequence => exact Ansi.whole_nil
  | flush =>
      rw [Action.chunks, List.flatten_singleton]
      exact h.whole_held
  | reset =>
      rw [Action.chunks, List.flatten_singleton]
      exact h.whole_held

theorem strip_chunks (action : Action) :
    Ansi.strip (action.chunks console).flatten = action.seen console.lineFeeds := by
  cases action with
  | log text =>
      rw [Action.chunks, List.flatten_cons, List.flatten_singleton, h.whole_held.strip_append,
        h.holdsCodes]
      rfl
  | insertLineFeeds count =>
      rw [Action.chunks, List.flatten_singleton]
      exact Ansi.strip_lineFeeds _
  | format sequence => exact Ansi.strip_nil
  | flush =>
      rw [Action.chunks, List.flatten_singleton]
      exact h.holdsCodes
  | reset =>
      rw [Action.chunks, List.flatten_singleton]
      exact h.holdsCodes

/-- What is seen of all that actions print is what is seen of each of them. -/
theorem strip_printed {actions : List Action} (hcolours : ∀ action ∈ actions, action.Colours) :
    Ansi.strip (console.printed actions) = Action.seenAll console.lineFeeds actions := by
  induction actions generalizing console with
  | nil => exact Ansi.strip_nil
  | cons action actions ih =>
      have hnext : (console.after action).Open := h.after (hcolours action List.mem_cons_self)
      have hrest := ih hnext fun a ha => hcolours a (List.mem_cons_of_mem _ ha)
      -- the chunks of the first action are whole, so the others complete no sequence in them
      rw [printed, (h.whole_chunks action).strip_append, h.strip_chunks, hrest,
        lineFeeds_after h.takesAll, Action.seenAll]

theorem lineFeeds_afterAll {actions : List Action}
    (hcolours : ∀ action ∈ actions, action.Colours) :
    (console.afterAll actions).lineFeeds = Action.countAll console.lineFeeds actions := by
  induction actions generalizing console with
  | nil => rfl
  | cons action actions ih =>
      have hnext : (console.after action).Open := h.after (hcolours action List.mem_cons_self)
      have hrest := ih hnext fun a ha => hcolours a (List.mem_cons_of_mem _ ha)
      rw [afterAll_cons, hrest, lineFeeds_after h.takesAll]
      rfl

end Open

/-! ## Consoles that look alike -/

/-- Whether two consoles will be seen to print the same. -/
structure LookAlike (console console' : Console) : Prop where
  first : console.Open
  second : console'.Open
  lineFeeds : console.lineFeeds = console'.lineFeeds

/-- The same is seen of what two consoles print if they and the actions on them look alike, and
they look alike afterwards. -/
theorem LookAlike.afterAll {console console' : Console} (h : console.LookAlike console')
    {actions actions' : List Action} (halike : List.Forall₂ Action.Alike actions actions')
    (hcolours : ∀ action ∈ actions, action.Colours)
    (hcolours' : ∀ action ∈ actions', action.Colours) :
    Ansi.strip (wrote console (console.afterAll actions)) =
        Ansi.strip (wrote console' (console'.afterAll actions')) ∧
      (console.afterAll actions).LookAlike (console'.afterAll actions') := by
  refine ⟨?_, h.first.afterAll hcolours, h.second.afterAll hcolours', ?_⟩
  · rw [wrote_afterAll h.first.takesAll, wrote_afterAll h.second.takesAll,
      h.first.strip_printed hcolours, h.second.strip_printed hcolours', h.lineFeeds]
    exact Action.seenAll_congr halike _
  · rw [h.first.lineFeeds_afterAll hcolours, h.second.lineFeeds_afterAll hcolours', h.lineFeeds]
    exact Action.countAll_congr halike _

end Console

end HttpDoctest
