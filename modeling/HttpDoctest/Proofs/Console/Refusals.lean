import HttpDoctest.Proofs.Console.Actions

set_option autoImplicit false

/-! # Refused writes

A sink keeps every write that was attempted on it, and every flush, so one that was refused is found
at its place in the history of the sink (`Refused`). What an action comes to is `Candid` if it is a
success only where no write of the action was refused, and `Sure` if moreover it is a failure only
where one was. Both are kept when actions follow one another. All that can be asked of a console is
sure. A flush is the write of an empty chunk to all of this.
-/

namespace HttpDoctest

/-- The writes and flushes that were attempted on a sink, the earliest first. -/
def Sink.history (sink : Sink) : List WriteAttempt :=
  sink.attempts.reverse

/-! ## Actions that write to sinks -/

section Sinks

variable {ι σ ε α β : Type} (sinks : ι → σ → Sink)

/-- Whether nothing that was written up to one state is lost in another. -/
def Continues (before after : σ) : Prop :=
  ∀ i, (sinks i before).history <+: (sinks i after).history

/-- Whether the write at `place` in the history of a sink was attempted between two states, and
refused. -/
def Refused (before after : σ) (i : ι) (place : Nat) : Prop :=
  (sinks i before).history.length ≤ place ∧
    ∃ chunk, (sinks i after).history[place]? = some ⟨chunk, false⟩

/-- Whether what an action comes to from a state conceals no refused write: it is no success if
one was refused. -/
structure Candid (state : σ) (outcome : Except ε α × σ) : Prop where
  continues : Continues sinks state outcome.2
  accepted : ∀ value, outcome.1 = .ok value → ∀ i place, ¬Refused sinks state outcome.2 i place

/-- Whether what an action comes to from a state tells if a write was refused: it fails if one was,
with `closed`, and only then. -/
structure Sure (closed : ε) (state : σ) (outcome : Except ε α × σ) : Prop
    extends Candid sinks state outcome where
  refused : ∀ error, outcome.1 = .error error →
    error = closed ∧ ∃ i place, Refused sinks state outcome.2 i place

variable {sinks} {state before between after : σ} {closed : ε}

theorem Continues.refl (state : σ) : Continues sinks state state :=
  fun _ => List.prefix_rfl

theorem Continues.trans (h : Continues sinks before between) (h' : Continues sinks between after) :
    Continues sinks before after :=
  fun i => (h i).trans (h' i)

theorem prefix_of_eq {i : ι} (h : sinks i after = sinks i before) :
    (sinks i before).history <+: (sinks i after).history := by
  simp [h]

theorem not_refused_of_eq {i : ι} (h : sinks i after = sinks i before) (place : Nat) :
    ¬Refused sinks before after i place := by
  rintro ⟨hplace, chunk, hchunk⟩
  rw [h, List.getElem?_eq_none hplace] at hchunk
  cases hchunk

/-- What was refused on the way from one state to another was refused in front of a state on the
way, or behind it. -/
theorem refused_iff (h : Continues sinks before between) (h' : Continues sinks between after)
    {i : ι} {place : Nat} :
    Refused sinks before after i place ↔
      Refused sinks before between i place ∨ Refused sinks between after i place := by
  have hlength := (h i).length_le
  obtain ⟨more, hmore⟩ := h' i
  by_cases hplace : place < (sinks i between).history.length
  · have hsame : (sinks i after).history[place]? = (sinks i between).history[place]? := by
      rw [← hmore, List.getElem?_append_left hplace]
    simp only [Refused, hsame, Nat.not_le.2 hplace, false_and, or_false]
  · have hnone : (sinks i between).history[place]? = none :=
      List.getElem?_eq_none (Nat.not_lt.1 hplace)
    have hle : (sinks i before).history.length ≤ place := by omega
    simp only [Refused, hnone, Nat.not_lt.1 hplace, hle, true_and]
    simp

namespace Candid

/-- An action that leaves the sinks alone is candid, whatever it comes to. -/
theorem of_eq {result : Except ε α} (h : ∀ i, sinks i after = sinks i before) :
    Candid sinks before (result, after) where
  continues i := prefix_of_eq (h i)
  accepted _ _ i := not_refused_of_eq (h i)

theorem bind {action : ExceptT ε (StateM σ) α} {rest : α → ExceptT ε (StateM σ) β}
    (h : Candid sinks state (exec action state))
    (h' : ∀ value next, Candid sinks next (exec (rest value) next)) :
    Candid sinks state (exec (action >>= rest) state) := by
  rcases hexec : exec action state with ⟨error | value, next⟩
  · rw [hexec] at h
    rw [exec_bind_of_error hexec]
    exact ⟨h.continues, fun _ hok => nomatch hok⟩
  · rw [hexec] at h
    rw [exec_bind_of_ok hexec]
    have hrest := h' value next
    refine ⟨h.continues.trans hrest.continues, fun result hok i place hrefused => ?_⟩
    rcases (refused_iff h.continues hrest.continues).1 hrefused with hfirst | hlast
    · exact h.accepted value rfl i place hfirst
    · exact hrest.accepted result hok i place hlast

end Candid

namespace Sure

/-- An action that leaves the sinks alone is sure if it succeeds. -/
theorem of_eq {value : α} (h : ∀ i, sinks i after = sinks i before) :
    Sure sinks closed before (.ok value, after) where
  toCandid := .of_eq h
  refused _ herror := nomatch herror

/-- Only the sinks of the state matter. -/
theorem congr {state' : σ} {outcome : Except ε α × σ} (hsinks : ∀ i, sinks i state' = sinks i state)
    (h : Sure sinks closed state' outcome) : Sure sinks closed state outcome where
  continues i := hsinks i ▸ h.continues i
  accepted value hok i place := by
    have hnone := h.accepted value hok i place
    rwa [Refused, hsinks i] at hnone
  refused error herror := by
    obtain ⟨hclosed, i, place, hrefused⟩ := h.refused error herror
    rw [Refused, hsinks i] at hrefused
    exact ⟨hclosed, i, place, hrefused⟩

theorem bind {action : ExceptT ε (StateM σ) α} {rest : α → ExceptT ε (StateM σ) β}
    (h : Sure sinks closed state (exec action state))
    (h' : ∀ value next, Sure sinks closed next (exec (rest value) next)) :
    Sure sinks closed state (exec (action >>= rest) state) where
  toCandid := h.toCandid.bind fun value next => (h' value next).toCandid
  refused := by
    intro error herror
    rcases hexec : exec action state with ⟨_ | value, next⟩
    · rw [exec_bind_of_error hexec] at herror ⊢
      rw [hexec] at h
      cases herror
      exact h.refused error rfl
    · rw [exec_bind_of_ok hexec] at herror ⊢
      rw [hexec] at h
      obtain ⟨hclosed, i, place, hrefused⟩ := (h' value next).refused error herror
      exact ⟨hclosed, i, place,
        (refused_iff h.continues (h' value next).continues).2 (.inr hrefused)⟩

end Sure

end Sinks

/-! ## Actions on a console -/

theorem Sink.history_attempt (sink : Sink) (chunk : List Char) :
    (sink.attempt chunk).2.history = sink.history ++ [⟨chunk, (sink.attempt chunk).1⟩] :=
  List.reverse_cons

namespace Console

/-- The one sink of a console. -/
def sinks (_ : Unit) (console : Console) : Sink :=
  console.sink

/-- Whether an action on a console fails if a write or a flush is refused, and only then. -/
def Reliable (action : Printing Unit) : Prop :=
  ∀ console, Sure sinks .closed console (exec action console)

theorem reliable_attempt (chunk : List Char) : Reliable (ask (·.attempt chunk)) := by
  intro console
  have hhistory := console.sink.history_attempt chunk
  have hcontinues : Continues sinks console
      { console with sink := (console.sink.attempt chunk).2 } :=
    fun _ => ⟨_, hhistory.symm⟩
  rw [exec_ask_eq]
  cases haccepted : (console.sink.attempt chunk).1 with
  | true =>
      refine ⟨⟨hcontinues, ?_⟩, fun _ herror => nomatch herror⟩
      rintro _ - _ place ⟨hplace, other, hother⟩
      -- the one attempt that was added was accepted
      have hbehind : console.sink.history.length ≤ place := hplace
      have hlast := hhistory ▸ hother
      rw [List.getElem?_append_right hbehind, haccepted] at hlast
      cases List.mem_singleton.1 (List.mem_of_getElem? hlast)
  | false =>
      refine ⟨⟨hcontinues, fun _ hok => nomatch hok⟩, ?_⟩
      rintro _ ⟨⟩
      have hlast : (console.sink.attempt chunk).2.history[console.sink.history.length]? =
          some ⟨chunk, false⟩ := by
        rw [hhistory, haccepted, List.getElem?_concat_length]
      exact ⟨rfl, (), console.sink.history.length, Nat.le_refl _, chunk, hlast⟩

theorem reliable_write (chunk : List Char) : Reliable (write chunk) := by
  intro console
  cases hempty : chunk.isEmpty with
  | true =>
      -- an empty chunk does not reach the sink, and is never refused
      have hnothing : exec (write chunk) console = (.ok (), console) := by
        rw [write, exec_ask_eq, Sink.write, if_pos hempty]
        rfl
      rw [hnothing]
      exact .of_eq fun _ => rfl
  | false =>
      have hattempt : (·.write chunk) = fun sink : Sink => sink.attempt chunk :=
        funext fun _ => if_neg (Bool.eq_false_iff.1 hempty)
      rw [write, hattempt]
      exact reliable_attempt chunk console

theorem reliable_release : Reliable release := by
  intro console
  have hsame : ∀ i, sinks i { console with held := [] } = sinks i console := fun _ => rfl
  rw [exec_release_eq]
  exact (reliable_write console.held _).congr hsame

theorem reliable_log (text : List Char) : Reliable (log text) := fun console =>
  (reliable_release console).bind fun _ next =>
    (reliable_write (text ++ ['\n']) next).bind fun _ _ => .of_eq fun _ => rfl

theorem reliable_insertLineFeeds (count : Nat) : Reliable (insertLineFeeds count) := by
  intro console
  rw [insertLineFeeds, exec_bind, exec_get]
  dsimp only
  split
  · exact (reliable_write _ console).bind fun _ _ => .of_eq fun _ => rfl
  · exact .of_eq fun _ => rfl

theorem reliable_format (sequence : List Char) : Reliable (format sequence) := fun _ =>
  .of_eq fun _ => rfl

theorem reliable_flush : Reliable flush := fun console =>
  (reliable_release console).bind fun _ next => reliable_attempt [] next

theorem reliable_reset : Reliable reset := fun console =>
  (reliable_flush console).bind fun _ _ => .of_eq fun _ => rfl

end Console

end HttpDoctest
