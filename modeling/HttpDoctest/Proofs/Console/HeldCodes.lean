import HttpDoctest.Proofs.Console.Refusals
import HttpDoctest.Proofs.Console.Writes
import Mathlib.Data.List.Flatten

set_option autoImplicit false

/-! # Codes that are held

A code that is held is offered to the sink once, in front of whatever is written next, and given up
at that moment. So the codes that were to be held are, in order, those offered and those still held
(`given_eq_offered`). What the sink refuses of them is lost: exactly if it refuses none, they are
those that it took and those still held (`held_codes_kept_iff`).
-/

namespace HttpDoctest

theorem Sink.history_of_write {sink next : Sink} {chunk : List Char} {taken : Bool}
    (h : sink.write chunk = (taken, next)) :
    next.history = sink.history ++ if chunk.isEmpty then [] else [⟨chunk, taken⟩] := by
  unfold write at h
  split at h
  · next hempty =>
    cases h
    rw [if_pos hempty, List.append_nil]
  · next hempty =>
    have hhistory := sink.history_attempt chunk
    rw [h] at hhistory
    rw [if_neg hempty, hhistory]

theorem Sink.history_of_flush {sink next : Sink} {done : Bool} (h : sink.flush = (done, next)) :
    next.history = sink.history ++ [⟨[], done⟩] := by
  have hhistory := sink.history_attempt []
  rwa [← flush, h] at hhistory

namespace Console

/-- The codes that an action asks a console to hold. -/
def Action.given : Action → List Char
  | format sequence => sequence
  | _ => []

/-- The attempt to write the codes held with which an action starts, if it makes one. -/
def offer (console : Console) (action : Action) : List WriteAttempt :=
  if action.releases && !console.held.isEmpty then
    ((console.after action).sink.history.drop console.sink.history.length).take 1
  else []

/-- All attempts to write codes that were held. -/
def offers (console : Console) : List Action → List WriteAttempt
  | [] => []
  | action :: actions => console.offer action ++ offers (console.after action) actions

/-! ## Texts of attempts -/

/-- The texts of attempts. -/
def texts (attempts : List WriteAttempt) : List Char :=
  attempts.flatMap (·.chunk)

/-- The texts of those attempts that were accepted. -/
def takenTexts (attempts : List WriteAttempt) : List Char :=
  texts (attempts.filter (·.accepted))

theorem length_takenTexts_le (attempts : List WriteAttempt) :
    (takenTexts attempts).length ≤ (texts attempts).length :=
  (List.filter_sublist.flatMap _).length_le

/-- What was taken is all that was offered exactly if nothing was refused. -/
theorem takenTexts_eq_iff {attempts : List WriteAttempt}
    (h : ∀ attempt ∈ attempts, attempt.chunk ≠ []) :
    takenTexts attempts = texts attempts ↔ ∀ attempt ∈ attempts, attempt.accepted = true := by
  constructor
  · intro heq
    induction attempts with
    | nil => exact List.forall_mem_nil _
    | cons attempt attempts ih =>
        rw [List.forall_mem_cons] at h ⊢
        cases haccepted : attempt.accepted with
        | true =>
            have hfilter : (attempt :: attempts).filter (·.accepted) =
                attempt :: attempts.filter (·.accepted) := List.filter_cons_of_pos haccepted
            rw [takenTexts, hfilter] at heq
            exact ⟨rfl, ih h.2 (List.append_cancel_left heq)⟩
        | false =>
            -- the text of this attempt is missing, so what was taken is too short
            have hfilter : (attempt :: attempts).filter (·.accepted) =
                attempts.filter (·.accepted) := List.filter_cons_of_neg (by simp [haccepted])
            have hlength := congrArg List.length heq
            have hle := length_takenTexts_le attempts
            have hpos := List.length_pos_iff.2 h.1
            rw [takenTexts, hfilter, ← takenTexts, texts, List.flatMap_cons, ← texts,
              List.length_append] at hlength
            omega
  · intro hall
    rw [takenTexts, List.filter_eq_self.2 hall]

/-! ## Every code is offered or held -/

theorem color_after_action (console : Console) (action : Action) :
    (console.after action).color = console.color := by
  have hdoes := does_perform console action
  generalize (exec action.perform console).1 = result at hdoes
  generalize console.after action = next at hdoes
  cases hdoes <;> rfl

section Offer

variable {console : Console} {action : Action}

/-- Actions that release the codes held offer them before they write anything else. -/
theorem exists_offer (console : Console) {action : Action} (h : action.releases = true) :
    ∃ taken more, (console.after action).held = [] ∧
      (console.after action).sink.history = console.sink.history ++
        ((if console.held.isEmpty then [] else [⟨console.held, taken⟩]) ++ more) := by
  have hdoes := does_perform console action
  generalize (exec action.perform console).1 = result at hdoes
  generalize console.after action = next at hdoes ⊢
  cases hdoes with
  | loses _ hheld =>
      refine ⟨false, [], rfl, ?_⟩
      rw [List.append_nil]
      exact Sink.history_of_write hheld
  -- a line or a flush is one more attempt behind that to write the codes, taken or not
  | logs hheld htext | breaksLog hheld htext =>
      exact ⟨true, _, rfl, (Sink.history_of_write htext).trans
        (by rw [Sink.history_of_write hheld, List.append_assoc])⟩
  | flushes hheld hflush | resets hheld hflush | breaksFlush _ hheld hflush =>
      exact ⟨true, _, rfl, (Sink.history_of_flush hflush).trans
        (by rw [Sink.history_of_write hheld, List.append_assoc])⟩
  | _ => cases h

/-- Other actions offer nothing, and add their codes to those held. -/
theorem held_after_of_not_releases (h : action.releases = false) :
    (console.after action).held = console.held ++ console.code action.given := by
  have hcode : console.code [] = [] := by
    unfold code
    split <;> rfl
  have hdoes := does_perform console action
  generalize (exec action.perform console).1 = result at hdoes
  generalize console.after action = next at hdoes ⊢
  cases hdoes with
  | loses hreleases _ => exact absurd (hreleases.symm.trans h) Bool.noConfusion
  | breaksFlush hflushes _ _ =>
      exact absurd ((Action.releases_of_flushes hflushes).symm.trans h) Bool.noConfusion
  | holds sequence => rfl
  | keeps _ => exact ((congrArg _ hcode).trans (List.append_nil _)).symm
  | inserts _ _ => exact ((congrArg _ hcode).trans (List.append_nil _)).symm
  | missesLineFeeds _ _ => exact ((congrArg _ hcode).trans (List.append_nil _)).symm
  | _ => cases h

theorem given_of_releases (h : action.releases = true) : action.given = [] := by
  cases action with
  | format sequence => cases h
  | _ => rfl

/-- What an action offers and what it leaves held are what was held in front of it and the codes
that it adds. -/
theorem texts_offer (hcolor : console.color = true) :
    texts (console.offer action) ++ (console.after action).held =
      console.held ++ action.given := by
  cases hreleases : action.releases with
  | true =>
      obtain ⟨taken, more, hheld, hhistory⟩ := exists_offer console hreleases
      rw [offer, hreleases, hhistory, List.drop_left, hheld, given_of_releases hreleases]
      cases hcodes : console.held with
      | nil => rfl
      | cons c codes => simp [texts]
  | false =>
      rw [offer, hreleases, held_after_of_not_releases hreleases, code, hcolor]
      rfl

theorem chunk_ne_nil_of_mem_offer {attempt : WriteAttempt} (h : attempt ∈ console.offer action) :
    attempt.chunk ≠ [] := by
  cases hreleases : action.releases with
  | true =>
      obtain ⟨taken, more, -, hhistory⟩ := exists_offer console hreleases
      rw [offer, hreleases, hhistory, List.drop_left] at h
      cases hcodes : console.held with
      | nil =>
          rw [hcodes] at h
          cases h
      | cons c codes =>
          rw [hcodes] at h
          simp only [List.isEmpty_cons, Bool.not_false, Bool.and_self, if_true] at h
          cases List.mem_singleton.1 h
          exact List.cons_ne_nil _ _
  | false =>
      rw [offer, hreleases] at h
      cases h

end Offer

/-- **Every code is offered or still held.** Whatever a sink refuses, the codes that a console was
asked to hold are, in order, those that it offered to its sink and those that it holds. -/
theorem given_eq_offered {console : Console} (hcolor : console.color = true)
    (actions : List Action) :
    texts (console.offers actions) ++ (console.afterAll actions).held =
      console.held ++ actions.flatMap Action.given := by
  induction actions generalizing console with
  | nil => simp [offers, texts]
  | cons action actions ih =>
      have hrest := ih ((color_after_action console action).trans hcolor)
      calc texts (console.offers (action :: actions)) ++ (console.afterAll (action :: actions)).held
          = texts (console.offer action) ++ (texts ((console.after action).offers actions) ++
              ((console.after action).afterAll actions).held) := by
            rw [offers, texts, List.flatMap_append, List.append_assoc]
            rfl
        _ = texts (console.offer action) ++ (console.after action).held ++
              actions.flatMap Action.given := by
            rw [hrest, List.append_assoc]
        _ = console.held ++ (action :: actions).flatMap Action.given := by
            rw [texts_offer hcolor, List.append_assoc, List.flatMap_cons]

theorem chunk_ne_nil_of_mem_offers {console : Console} {actions : List Action}
    {attempt : WriteAttempt} (h : attempt ∈ console.offers actions) : attempt.chunk ≠ [] := by
  induction actions generalizing console with
  | nil => cases h
  | cons action actions ih =>
      rcases List.mem_append.1 h with hfirst | hrest
      · exact chunk_ne_nil_of_mem_offer hfirst
      · exact ih hrest

/-- **Which codes are kept.** Behind any actions on a console with colour, the codes that it was
asked to hold are those that its sink took and those that it still holds, exactly if its sink never
refused codes that were held. -/
theorem held_codes_kept_iff (sink : Sink) (actions : List Action) :
    let console := ofSink sink true
    actions.flatMap Action.given =
        takenTexts (console.offers actions) ++ (console.afterAll actions).held ↔
      ∀ attempt ∈ console.offers actions, attempt.accepted = true := by
  intro console
  have hgiven : texts (console.offers actions) ++ (console.afterAll actions).held =
      actions.flatMap Action.given := given_eq_offered rfl actions
  have hchunks : ∀ attempt ∈ console.offers actions, attempt.chunk ≠ [] :=
    fun attempt hattempt => chunk_ne_nil_of_mem_offers hattempt
  rw [← takenTexts_eq_iff hchunks, ← hgiven]
  constructor
  · intro h
    exact (List.append_cancel_right h).symm
  · intro h
    rw [h]

/-- A sink of four bytes refuses the code of a colour, and the console does not hold it any more:
a line that fits is written without its colour. -/
theorem refused_code_is_lost :
    let console := ofSink (.limited 4) true
    let actions : List Action := [.format Ansi.red, .flush, .log "a".toList]
    actions.flatMap Action.given = Ansi.red ∧
      takenTexts (console.offers actions) ++ (console.afterAll actions).held = [] ∧
      (console.afterAll actions).sink.written = "a\n".toList := by
  decide +kernel

end Console

end HttpDoctest
