import HttpDoctest.Proofs.Console.Actions

set_option autoImplicit false

/-! # Actions on any sink

A sink may refuse any chunk or flush and take later ones, so an action may stop at each of its
writes and at its flush. The ways that it may go are listed once (`Does`), and every action goes one
of them (`does_perform`).
-/

namespace HttpDoctest

namespace Sink

theorem written_attempt (sink : Sink) (chunk : List Char) :
    (sink.attempt chunk).2.written =
      sink.written ++ if (sink.attempt chunk).1 then chunk else [] := by
  rw [attempt, written, List.reverse_cons, List.flatMap_append, List.flatMap_singleton]
  rfl

theorem written_write (sink : Sink) (chunk : List Char) :
    (sink.write chunk).2.written =
      sink.written ++ if (sink.write chunk).1 then chunk else [] := by
  unfold write
  split
  · next hempty => simp [List.isEmpty_iff.1 hempty]
  · exact sink.written_attempt chunk

theorem written_of_flush {sink next : Sink} {done : Bool} (h : sink.flush = (done, next)) :
    next.written = sink.written := by
  have hwritten := sink.written_attempt []
  rwa [← flush, h, ite_self, List.append_nil] at hwritten

theorem written_of_taken {sink next : Sink} {chunk : List Char}
    (h : sink.write chunk = (true, next)) : next.written = sink.written ++ chunk := by
  have hwritten := sink.written_write chunk
  rwa [h, if_pos rfl] at hwritten

theorem written_of_refused {sink next : Sink} {chunk : List Char}
    (h : sink.write chunk = (false, next)) : next.written = sink.written := by
  have hwritten := sink.written_write chunk
  rwa [h, if_neg Bool.false_ne_true, List.append_nil] at hwritten

end Sink

namespace Console

/-- Whether an action starts by writing the codes held. -/
def Action.releases : Action → Bool
  | log _ => true
  | insertLineFeeds _ => false
  | format _ => false
  | flush => true
  | reset => true

theorem Action.releases_of_flushes {action : Action} (h : action.flushes = true) :
    action.releases = true := by
  cases action with
  | flush => rfl
  | reset => rfl
  | _ => cases h

/-- The console without the codes that it held, and with another sink. -/
def letGo (console : Console) (sink : Sink) : Console :=
  { console with sink := sink, held := [] }

/-- What an action may come to: its result, and the console that it leaves. -/
inductive Does (console : Console) : Action → Except ConsoleError Unit → Console → Prop where
  /-- The codes held are refused, and the action stops. -/
  | loses {action : Action} {sink : Sink} :
      action.releases = true → console.sink.write console.held = (false, sink) →
      Does console action (.error .closed) (console.letGo sink)
  /-- The codes held are taken, and then the text. -/
  | logs {text : List Char} {between sink : Sink} :
      console.sink.write console.held = (true, between) →
      between.write (text ++ ['\n']) = (true, sink) →
      Does console (.log text) (.ok ())
        { console.letGo sink with
          lineFeeds := lineFeedsAfter console.lineFeeds (text ++ ['\n']) }
  /-- The codes held are taken, and then the text is refused. -/
  | breaksLog {text : List Char} {between sink : Sink} :
      console.sink.write console.held = (true, between) →
      between.write (text ++ ['\n']) = (false, sink) →
      Does console (.log text) (.error .closed) (console.letGo sink)
  /-- There are line feeds enough. -/
  | keeps {count : Nat} :
      count ≤ console.lineFeeds → Does console (.insertLineFeeds count) (.ok ()) console
  /-- The missing line feeds are taken. -/
  | inserts {count : Nat} {sink : Sink} :
      console.lineFeeds < count →
      console.sink.write (List.replicate (count - console.lineFeeds) '\n') = (true, sink) →
      Does console (.insertLineFeeds count) (.ok ())
        { console with sink := sink, lineFeeds := count }
  /-- The missing line feeds are refused. -/
  | missesLineFeeds {count : Nat} {sink : Sink} :
      console.lineFeeds < count →
      console.sink.write (List.replicate (count - console.lineFeeds) '\n') = (false, sink) →
      Does console (.insertLineFeeds count) (.error .closed) { console with sink := sink }
  /-- A code is held. -/
  | holds (sequence : List Char) :
      Does console (.format sequence) (.ok ())
        { console with held := console.held ++ console.code sequence }
  /-- The codes held are taken, and the sink is flushed. -/
  | flushes {between sink : Sink} :
      console.sink.write console.held = (true, between) → between.flush = (true, sink) →
      Does console .flush (.ok ()) (console.letGo sink)
  /-- The codes held are taken, the sink is flushed, and the line feeds are forgotten. -/
  | resets {between sink : Sink} :
      console.sink.write console.held = (true, between) → between.flush = (true, sink) →
      Does console .reset (.ok ()) { console.letGo sink with lineFeeds := 0 }
  /-- The codes held are taken, and then the flush is refused. -/
  | breaksFlush {action : Action} {between sink : Sink} :
      action.flushes = true → console.sink.write console.held = (true, between) →
      between.flush = (false, sink) →
      Does console action (.error .closed) (console.letGo sink)

theorem exec_ask_of_eq {request : Sink → Bool × Sink} {console : Console} {accepted : Bool}
    {sink : Sink} (h : request console.sink = (accepted, sink)) :
    exec (ask request) console =
      (if accepted then .ok () else .error .closed, { console with sink := sink }) := by
  rw [exec_ask_eq, h]

theorem exec_release_of_eq {console : Console} {taken : Bool} {sink : Sink}
    (h : console.sink.write console.held = (taken, sink)) :
    exec release console = (if taken then .ok () else .error .closed, console.letGo sink) := by
  have hwrite : ({ console with held := [] } : Console).sink.write console.held = (taken, sink) := h
  rw [exec_release_eq]
  exact exec_ask_of_eq hwrite

/-- Actions that start by writing the codes held stop if these are refused. -/
theorem exec_perform_of_lost {console : Console} {action : Action} {sink : Sink}
    (hreleases : action.releases = true)
    (h : console.sink.write console.held = (false, sink)) :
    exec action.perform console = (.error .closed, console.letGo sink) := by
  have hrelease : exec release console = (.error .closed, console.letGo sink) :=
    exec_release_of_eq h
  cases action with
  | log text => exact exec_bind_of_error hrelease _
  | insertLineFeeds count => cases hreleases
  | format sequence => cases hreleases
  | flush => exact exec_bind_of_error hrelease _
  | reset => exact exec_bind_of_error (exec_bind_of_error hrelease _) _

section Released

variable {console : Console} {sink : Sink} (h : console.sink.write console.held = (true, sink))
include h

theorem exec_flush_of_taken {done : Bool} {next : Sink} (hflush : sink.flush = (done, next)) :
    exec flush console = (if done then .ok () else .error .closed, console.letGo next) := by
  have hask : Sink.flush (console.letGo sink).sink = (done, next) := hflush
  exact (exec_bind_of_ok (exec_release_of_eq h) _).trans (exec_ask_of_eq hask)

theorem exec_reset_of_taken {done : Bool} {next : Sink} (hflush : sink.flush = (done, next)) :
    exec reset console =
      if done then (.ok (), { console.letGo next with lineFeeds := 0 })
      else (.error .closed, console.letGo next) := by
  rw [reset, exec_bind, exec_flush_of_taken h hflush]
  cases done <;> rfl

theorem exec_log_of_taken {text : List Char} {taken : Bool} {next : Sink}
    (htext : sink.write (text ++ ['\n']) = (taken, next)) :
    exec (log text) console =
      if taken then
        (.ok (), { console.letGo next with
          lineFeeds := lineFeedsAfter console.lineFeeds (text ++ ['\n']) })
      else (.error .closed, console.letGo next) := by
  have hwrite : (console.letGo sink).sink.write (text ++ ['\n']) = (taken, next) := htext
  refine (exec_bind_of_ok (exec_release_of_eq h) _).trans ?_
  rw [exec_bind, write, exec_ask_of_eq hwrite]
  cases taken <;> rfl

end Released

theorem exec_insertLineFeeds_of_eq {console : Console} {count : Nat} {taken : Bool} {sink : Sink}
    (hmissing : console.lineFeeds < count)
    (h : console.sink.write (List.replicate (count - console.lineFeeds) '\n') = (taken, sink)) :
    exec (insertLineFeeds count) console =
      if taken then (.ok (), { console with sink := sink, lineFeeds := count })
      else (.error .closed, { console with sink := sink }) := by
  rw [insertLineFeeds, exec_bind, exec_get]
  dsimp only
  rw [if_pos hmissing, exec_bind, write, exec_ask_of_eq h]
  cases taken <;> rfl

theorem exec_insertLineFeeds_of_le {console : Console} {count : Nat}
    (h : count ≤ console.lineFeeds) :
    exec (insertLineFeeds count) console = (.ok (), console) := by
  rw [insertLineFeeds, exec_bind, exec_get]
  dsimp only
  rw [if_neg (Nat.not_lt.2 h)]
  rfl

/-- Every action goes one of the ways listed. -/
theorem does_perform (console : Console) (action : Action) :
    Does console action (exec action.perform console).1 (console.after action) := by
  unfold after
  have hlost {sink : Sink} (hreleases : action.releases = true)
      (hheld : console.sink.write console.held = (false, sink)) :
      Does console action (exec action.perform console).1 (exec action.perform console).2 := by
    rw [exec_perform_of_lost hreleases hheld]
    exact .loses hreleases hheld
  cases action with
  | log text =>
      rcases hheld : console.sink.write console.held with ⟨_ | _, between⟩
      · exact hlost rfl hheld
      · rcases htext : between.write (text ++ ['\n']) with ⟨_ | _, sink⟩
        · rw [Action.perform, exec_log_of_taken hheld htext]
          exact .breaksLog hheld htext
        · rw [Action.perform, exec_log_of_taken hheld htext]
          exact .logs hheld htext
  | insertLineFeeds count =>
      rw [Action.perform]
      by_cases hmissing : console.lineFeeds < count
      · rcases hfeeds : console.sink.write (List.replicate (count - console.lineFeeds) '\n') with
          ⟨_ | _, sink⟩
        · rw [exec_insertLineFeeds_of_eq hmissing hfeeds]
          exact .missesLineFeeds hmissing hfeeds
        · rw [exec_insertLineFeeds_of_eq hmissing hfeeds]
          exact .inserts hmissing hfeeds
      · have hle := Nat.not_lt.1 hmissing
        rw [exec_insertLineFeeds_of_le hle]
        exact .keeps hle
  | format sequence => exact .holds sequence
  | flush =>
      rcases hheld : console.sink.write console.held with ⟨_ | _, between⟩
      · exact hlost rfl hheld
      · rcases hflush : between.flush with ⟨_ | _, sink⟩
        · rw [Action.perform, exec_flush_of_taken hheld hflush]
          exact .breaksFlush rfl hheld hflush
        · rw [Action.perform, exec_flush_of_taken hheld hflush]
          exact .flushes hheld hflush
  | reset =>
      rcases hheld : console.sink.write console.held with ⟨_ | _, between⟩
      · exact hlost rfl hheld
      · rcases hflush : between.flush with ⟨_ | _, sink⟩
        · rw [Action.perform, exec_reset_of_taken hheld hflush]
          exact .breaksFlush rfl hheld hflush
        · rw [Action.perform, exec_reset_of_taken hheld hflush]
          exact .resets hheld hflush

/-! ## What is written between two states of a console -/

/-- What a console wrote from one state to a later one. -/
def wrote (before after : Console) : List Char :=
  after.sink.written.drop before.sink.written.length

theorem wrote_eq {before after : Console} {text : List Char}
    (h : after.sink.written = before.sink.written ++ text) : wrote before after = text := by
  rw [wrote, h, List.drop_left]

end Console

end HttpDoctest
