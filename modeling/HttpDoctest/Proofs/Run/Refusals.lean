import HttpDoctest.Proofs.Console.Refusals
import HttpDoctest.Proofs.Run.Transcript

set_option autoImplicit false

/-! # Refused writes of a run

A block fails if one of its writes is refused, and then is reported and counted like any other
failure. What is written between blocks and behind them fails the run if it is refused, and nothing
else does. So a run either fails for a refused write, or counts every block, and every refused
write belongs to a block that it does not count as a success
(`refused_writes_are_accounted_for`).
-/

namespace HttpDoctest

/-- The outputs of a runner. -/
inductive Output where
  | out
  | err
deriving DecidableEq, Repr

namespace Runner

/-- The console of an output. -/
def console (runner : Runner) : Output → Console
  | .out => runner.out
  | .err => runner.err

/-- The sink of an output. -/
def sinks (output : Output) (runner : Runner) : Sink :=
  (runner.console output).sink

/-- Whether an action fails if a write is refused, and maybe for another reason. -/
def Honest {α : Type} (action : Run α) : Prop :=
  ∀ runner, Candid sinks runner (exec action runner)

/-- Whether an action fails if a write is refused, and only then. -/
def Reliable {α : Type} (action : Run α) : Prop :=
  ∀ runner, Sure sinks .consoleClosed runner (exec action runner)

section Sequences

variable {α β : Type} {action : Run α} {rest : α → Run β}

theorem Reliable.honest (h : Reliable action) : Honest action :=
  fun runner => (h runner).toCandid

theorem Honest.bind (h : Honest action) (h' : ∀ value, Honest (rest value)) :
    Honest (action >>= rest) :=
  fun runner => (h runner).bind h'

theorem Reliable.bind (h : Reliable action) (h' : ∀ value, Reliable (rest value)) :
    Reliable (action >>= rest) :=
  fun runner => (h runner).bind h'

theorem reliable_pure (value : α) : Reliable (pure value) :=
  fun _ => .of_eq fun _ => rfl

theorem reliable_get : Reliable get :=
  fun _ => .of_eq fun _ => rfl

theorem honest_demand {ε : Type} (failure : ε → Failure) (result : Except ε α) :
    Honest (demand failure result) := by
  intro runner
  cases result <;> exact .of_eq fun _ => rfl

end Sequences

/-! ## Printing -/

/-- What is done on one output alone is as sure as it is on its console. -/
theorem sure_of_console (output : Output) {runner next : Runner}
    {result : Except ConsoleError Unit}
    (h : Sure Console.sinks .closed (runner.console output) (result, next.console output))
    (hother : ∀ other, other ≠ output → sinks other next = sinks other runner) :
    Sure sinks .consoleClosed runner (result.mapError fun _ => Failure.consoleClosed, next) := by
  have hrefused (place : Nat) : Refused sinks runner next output place ↔
      Refused Console.sinks (runner.console output) (next.console output) () place := Iff.rfl
  refine ⟨⟨fun i => ?_, ?_⟩, ?_⟩
  · by_cases hi : i = output
    · exact hi ▸ h.continues ()
    · exact prefix_of_eq (hother i hi)
  · intro value hok i place
    by_cases hi : i = output
    · rw [hi, hrefused]
      cases result with
      | ok value => exact h.accepted value rfl () place
      | error error => cases hok
    · exact not_refused_of_eq (hother i hi) place
  · intro error herror
    cases result with
    | ok value => cases herror
    | error error' =>
        cases herror
        obtain ⟨-, _, place, hplace⟩ := h.refused error' rfl
        exact ⟨rfl, output, place, (hrefused place).2 hplace⟩

theorem reliable_onOut {action : Printing Unit} (h : Console.Reliable action) :
    Reliable (onOut action) := by
  intro runner
  rw [exec_onOut]
  refine sure_of_console .out (h runner.out) ?_
  rintro (_ | _) hother
  · exact absurd rfl hother
  · rfl

theorem reliable_onErr {action : Printing Unit} (h : Console.Reliable action) :
    Reliable (onErr action) := by
  intro runner
  rw [exec_onErr]
  refine sure_of_console .err (h runner.err) ?_
  rintro (_ | _) hother
  · rfl
  · exact absurd rfl hother

theorem reliable_showHeaders (mark : String) (entries : List (String × String)) :
    Reliable (entries.forM (showHeader mark)) := by
  induction entries with
  | nil => exact reliable_pure ()
  | cons entry entries ih => exact (reliable_onOut (Console.reliable_log _)).bind fun _ => ih

theorem reliable_showBody (mark text : String) : Reliable (showBody mark text) :=
  (reliable_onOut (Console.reliable_format _)).bind fun _ =>
    (reliable_onOut (Console.reliable_log _)).bind fun _ =>
      reliable_onOut (Console.reliable_format _)

theorem reliable_showRequest (request : Request) : Reliable (showRequest request) := by
  refine (reliable_onOut (Console.reliable_log _)).bind fun _ =>
    (reliable_showHeaders _ _).bind fun _ => ?_
  cases request.body with
  | none => exact reliable_pure ()
  | some body => exact reliable_showBody _ body

theorem reliable_reportAssertion (source : String) (passed : Bool) :
    Reliable (reportAssertion source passed) :=
  reliable_get.bind fun _ => reliable_onOut (Console.reliable_log _)

theorem reliable_reportFailure (number : Nat) (failure : Failure) :
    Reliable (reportFailure number failure) :=
  (reliable_onOut Console.reliable_reset).bind fun _ =>
    (reliable_onErr (Console.reliable_format _)).bind fun _ =>
      (reliable_onErr (Console.reliable_log _)).bind fun _ =>
        (reliable_onErr (Console.reliable_format _)).bind fun _ =>
          reliable_onErr Console.reliable_reset

theorem reliable_printSummary (summary : Summary) : Reliable (printSummary summary) :=
  (reliable_onOut (Console.reliable_format _)).bind fun _ =>
    (reliable_onOut (Console.reliable_log _)).bind fun _ =>
      (reliable_onOut (Console.reliable_format _)).bind fun _ =>
        reliable_onOut Console.reliable_flush

/-! ## A block -/

theorem honest_send (request : Request) : Honest (send request) := by
  intro runner
  rw [exec_send rfl]
  exact .of_eq fun
    | .out => rfl
    | .err => rfl

theorem honest_carryOut (context : Context) (passed : Bool) (steps : List Step) :
    Honest (carryOut context passed steps) := by
  induction steps generalizing passed with
  | nil => exact (reliable_pure passed).honest
  | cons step steps ih =>
      cases step with
      | check assertion =>
          exact reliable_get.honest.bind fun _ => (honest_demand _ _).bind fun holds =>
            (reliable_reportAssertion _ _).honest.bind fun _ => ih (passed && holds)
      | perform effect =>
          have hmodify (store : Store) :
              Honest (modify fun runner => { runner with store := store }) :=
            fun _ => .of_eq fun
              | .out => rfl
              | .err => rfl
          exact reliable_get.honest.bind fun _ => (hmodify _).bind fun _ =>
            (honest_demand _ _).bind fun _ => ih passed

/-- No block hides a refused write. -/
theorem honest_runBlock (text : String) : Honest (runBlock text) := by
  refine (honest_demand _ _).bind fun block => (honest_demand _ _).bind fun steps =>
    reliable_get.honest.bind fun runner => (honest_demand _ _).bind fun request =>
      (reliable_showRequest _).honest.bind fun _ => (honest_send _).bind fun response =>
        (reliable_showHeaders _ _).honest.bind fun _ => (honest_demand _ _).bind fun json? => ?_
  cases json? with
  | none => exact honest_carryOut _ _ _
  | some json => exact (reliable_showBody _ _).honest.bind fun _ => honest_carryOut _ _ _

/-! ## The stages of a run -/

/-- A block of a run: the runner that it found, what it gave, and the runner that it left before
it was reported. -/
structure Stage where
  text : String
  before : Runner
  result : Except Failure Bool
  after : Runner

/-- Whether a block came to its end, and all its assertions hold. -/
def Stage.passed (stage : Stage) : Bool :=
  match stage.result with
  | .ok passed => passed
  | .error _ => false

/-- The stage of a block on a runner. -/
def stageOf (runner : Runner) (text : String) : Stage :=
  ⟨text, runner, (exec (runBlock text) runner).1, (exec (runBlock text) runner).2⟩

/-- The stages of the blocks that a run comes to, behind blocks that are summed up already. -/
def stagesFrom (summary : Summary) (runner : Runner) : List String → List Stage
  | [] => []
  | text :: texts => stageOf runner text ::
      match exec (runNext summary text) runner with
      | (.ok summary, next) => stagesFrom summary next texts
      | (.error _, _) => []

/-- The stages of a run. -/
def stages (runner : Runner) (texts : List String) : List Stage :=
  stagesFrom .empty runner texts

/-- What is written between a block and the next: the report, if the block failed, and a blank
line. -/
def settle (number : Nat) : Except Failure Bool → Run Unit
  | .ok _ => onOut (Console.insertLineFeeds 2)
  | .error failure => do
      reportFailure number failure
      onOut (Console.insertLineFeeds 2)

theorem reliable_settle (number : Nat) (result : Except Failure Bool) :
    Reliable (settle number result) := by
  have hfeeds := reliable_onOut (Console.reliable_insertLineFeeds 2)
  cases result with
  | ok passed => exact hfeeds
  | error failure => exact (reliable_reportFailure number failure).bind fun _ => hfeeds

theorem exec_runNext_eq (summary : Summary) (text : String) (runner : Runner) :
    exec (runNext summary text) runner =
      exec (do
        settle (summary.total + 1) (stageOf runner text).result
        return summary.record (stageOf runner text).passed) (stageOf runner text).after := by
  refine (exec_bind_of_ok (exec_lift_run (runBlock text) runner) _).trans ?_
  unfold Stage.passed stageOf
  cases (exec (runBlock text) runner).1 with
  | ok passed => rfl
  | error failure =>
      simp only [settle, bind_assoc]

/-- Behind the stage of a block nothing is refused, unless the run fails for it. -/
theorem sure_runNext (summary : Summary) (text : String) (runner : Runner) :
    Sure sinks .consoleClosed (stageOf runner text).after (exec (runNext summary text) runner) := by
  rw [exec_runNext_eq]
  exact (reliable_settle _ _ _).bind fun _ => reliable_pure _

theorem record_of_runNext {summary summary' : Summary} {text : String} {runner next : Runner}
    (h : exec (runNext summary text) runner = (.ok summary', next)) :
    summary' = summary.record (stageOf runner text).passed := by
  rw [exec_runNext_eq, exec_bind] at h
  split at h <;> cases h
  rfl

/-- A block in which a write is refused does not pass. -/
theorem passed_of_refused {runner : Runner} {text : String} {output : Output} {place : Nat}
    (h : Refused sinks runner (stageOf runner text).after output place) :
    (stageOf runner text).passed = false := by
  unfold Stage.passed
  split
  · next passed hresult =>
    exact absurd h ((honest_runBlock text runner).accepted passed hresult output place)
  · rfl

/-- Whether what blocks come to, behind blocks that are summed up already, accounts for every
refused write: it fails only for one, and else counts every block, and has them all inside blocks
that did not pass. -/
structure Accounted (summary : Summary) (runner : Runner) (texts : List String)
    (outcome : Except Failure Summary × Runner) : Prop where
  continues : Continues sinks runner outcome.2
  failed : ∀ failure, outcome.1 = .error failure →
    failure = .consoleClosed ∧ ∃ output place, Refused sinks runner outcome.2 output place
  complete : ∀ result, outcome.1 = .ok result →
    (stagesFrom summary runner texts).map Stage.text = texts
  counted : ∀ result, outcome.1 = .ok result →
    result = ⟨summary.successes + (stagesFrom summary runner texts).countP Stage.passed,
      summary.total + texts.length⟩
  isolated : ∀ result, outcome.1 = .ok result → ∀ output place,
    Refused sinks runner outcome.2 output place →
      ∃ stage ∈ stagesFrom summary runner texts, stage.passed = false ∧
        Refused sinks stage.before stage.after output place

theorem Accounted.of_error {summary : Summary} {runner next : Runner} {texts : List String}
    {failure : Failure} (hcontinues : Continues sinks runner next)
    (hrefused : failure = .consoleClosed ∧ ∃ output place, Refused sinks runner next output place) :
    Accounted summary runner texts (.error failure, next) where
  continues := hcontinues
  failed := by
    rintro _ ⟨⟩
    exact hrefused
  complete _ h := nomatch h
  counted _ h := nomatch h
  isolated _ h := nomatch h

/-- A block in front of accounted blocks is accounted for as well. -/
theorem Accounted.cons {summary summary' : Summary} {runner next : Runner} {text : String}
    {texts : List String} {outcome : Except Failure Summary × Runner}
    (hnext : exec (runNext summary text) runner = (.ok summary', next))
    (h : Accounted summary' next texts outcome) :
    Accounted summary runner (text :: texts) outcome := by
  have hblock := (honest_runBlock text runner).continues
  have hsure := sure_runNext summary text runner
  rw [hnext] at hsure
  have hfront : Continues sinks runner next := hblock.trans hsure.continues
  have hstages : stagesFrom summary runner (text :: texts) =
      stageOf runner text :: stagesFrom summary' next texts := by
    rw [stagesFrom, hnext]
  refine ⟨hfront.trans h.continues, ?_, ?_, ?_, ?_⟩
  · intro failure hfailure
    obtain ⟨hclosed, output, place, hrefused⟩ := h.failed failure hfailure
    exact ⟨hclosed, output, place, (refused_iff hfront h.continues).2 (.inr hrefused)⟩
  · intro result hresult
    rw [hstages, List.map_cons, h.complete result hresult]
    rfl
  · intro result hresult
    rw [h.counted result hresult, hstages, List.countP_cons, record_of_runNext hnext,
      List.length_cons]
    simp only [Summary.record]
    split <;> simp <;> omega
  · intro result hresult output place hrefused
    rw [hstages]
    -- refused inside this block, behind it, or in what follows; behind it nothing was
    rcases (refused_iff hfront h.continues).1 hrefused with hnow | hlater
    · rcases (refused_iff hblock hsure.continues).1 hnow with hinside | hbehind
      · exact ⟨_, List.mem_cons_self, passed_of_refused hinside, hinside⟩
      · exact absurd hbehind (hsure.accepted summary' rfl output place)
    · obtain ⟨stage, hstage, hfailed, hinside⟩ := h.isolated result hresult output place hlater
      exact ⟨stage, List.mem_cons_of_mem _ hstage, hfailed, hinside⟩

theorem accounted_blocks (summary : Summary) (runner : Runner) (texts : List String) :
    Accounted summary runner texts (exec (texts.foldlM runNext summary) runner) := by
  induction texts generalizing summary runner with
  | nil =>
      refine ⟨.refl runner, fun _ h => (nomatch h), fun _ _ => rfl, ?_, ?_⟩
      · rintro _ ⟨⟩
        rfl
      · intro _ _ output place hrefused
        exact absurd hrefused (not_refused_of_eq rfl place)
  | cons text texts ih =>
      rw [List.foldlM_cons]
      rcases hnext : exec (runNext summary text) runner with ⟨failure | summary', next⟩
      · have hblock := (honest_runBlock text runner).continues
        have hsure := sure_runNext summary text runner
        rw [hnext] at hsure
        rw [exec_bind_of_error hnext]
        obtain ⟨hclosed, output, place, hrefused⟩ := hsure.refused failure rfl
        exact .of_error (hblock.trans hsure.continues)
          ⟨hclosed, output, place, (refused_iff hblock hsure.continues).2 (.inr hrefused)⟩
      · rw [exec_bind_of_ok hnext]
        exact .cons hnext (ih summary' next)

/-! ## A run -/

/-- What is printed behind the blocks is accounted for as well. -/
theorem accounted_run (runner : Runner) (texts : List String) :
    Accounted .empty runner texts (runOn runner texts) := by
  have hblocks := accounted_blocks .empty runner texts
  have hrun : runOn runner texts = exec (texts.foldlM runNext .empty >>= fun summary =>
      printSummary summary >>= fun _ => pure summary) runner := rfl
  rw [hrun]
  rcases hexec : exec (texts.foldlM runNext .empty) runner with ⟨failure | summary, next⟩
  · rw [exec_bind_of_error hexec]
    rwa [hexec] at hblocks
  · rw [exec_bind_of_ok hexec]
    rw [hexec] at hblocks
    have hsure := reliable_printSummary summary next
    have hfront : Continues sinks runner next := hblocks.continues
    rcases hprint : exec (printSummary summary) next with ⟨failure | _, after⟩
    · rw [hprint] at hsure
      rw [exec_bind_of_error hprint]
      obtain ⟨hclosed, output, place, hrefused⟩ := hsure.refused failure rfl
      exact .of_error (hfront.trans hsure.continues)
        ⟨hclosed, output, place, (refused_iff hfront hsure.continues).2 (.inr hrefused)⟩
    · rw [hprint] at hsure
      rw [exec_bind_of_ok hprint, exec_pure]
      refine ⟨hfront.trans hsure.continues, fun _ h => (nomatch h), hblocks.complete,
        hblocks.counted, fun result hresult output place hrefused => ?_⟩
      rcases (refused_iff hfront hsure.continues).1 hrefused with hinside | hbehind
      · exact hblocks.isolated result hresult output place hinside
      · exact absurd hbehind (hsure.accepted () rfl output place)

/-- **No refused write is swallowed.** Whatever the outputs of a runner refuse, a run fails only
because of a refused write, or else ends with a summary of all blocks. Then it counts as successes
the blocks that passed, and every write that was refused was one of a block that did not. So if the
summary is a success, no write of the run was refused. -/
theorem refused_writes_are_accounted_for (runner : Runner) (texts : List String) :
    ((runOn runner texts).1 = .error .consoleClosed ∧
      ∃ output place, Refused sinks runner (runOn runner texts).2 output place) ∨
    ∃ summary, (runOn runner texts).1 = .ok summary ∧ summary.total = texts.length ∧
      (stages runner texts).map Stage.text = texts ∧
      summary.successes = (stages runner texts).countP Stage.passed ∧
      (∀ output place, Refused sinks runner (runOn runner texts).2 output place →
        ∃ stage ∈ stages runner texts, stage.passed = false ∧
          Refused sinks stage.before stage.after output place) ∧
      (summary.isSuccess = true → ∀ output place,
        ¬Refused sinks runner (runOn runner texts).2 output place) := by
  have haccounted := accounted_run runner texts
  cases hresult : (runOn runner texts).1 with
  | error failure =>
      obtain ⟨rfl, hrefused⟩ := haccounted.failed failure hresult
      exact .inl ⟨rfl, hrefused⟩
  | ok summary =>
      have htexts : (stages runner texts).map Stage.text = texts :=
        haccounted.complete summary hresult
      have hcounted : summary = ⟨(stages runner texts).countP Stage.passed, texts.length⟩ := by
        have hsum := haccounted.counted summary hresult
        rwa [Summary.empty, Nat.zero_add, Nat.zero_add] at hsum
      have hisolated := haccounted.isolated summary hresult
      subst hcounted
      refine .inr ⟨_, rfl, rfl, htexts, rfl, hisolated, ?_⟩
      intro hsuccess output place hrefused
      -- a block that did not pass would be missing among the successes
      obtain ⟨stage, hstage, hfailed, -⟩ := hisolated output place hrefused
      have hlength : (stages runner texts).length = texts.length := by
        rw [← List.length_map, htexts]
      have hall : (stages runner texts).countP Stage.passed = (stages runner texts).length :=
        (beq_iff_eq.1 hsuccess).trans hlength.symm
      exact absurd (List.countP_eq_length.1 hall stage hstage) (Bool.eq_false_iff.1 hfailed)

/-- An output that refuses the line of a request and nothing else: the run ends, and the refused
write is one of the block that did not pass. -/
theorem refused_request_line_is_accounted_for :
    let runner := start { color := false } .offline ⟨fun attempts _ => !attempts.isEmpty, []⟩
      .unlimited
    let texts := ["GET a\n"]
    (runOn runner texts).1 = .ok ⟨0, 1⟩ ∧
      Refused sinks runner (runOn runner texts).2 .out 0 ∧
      ∃ stage ∈ stages runner texts, stage.passed = false ∧
        Refused sinks stage.before stage.after .out 0 := by
  intro runner texts
  have hsummary : (runOn runner texts).1.toOption = some ⟨0, 1⟩ := by decide +kernel
  have hrefused : Refused sinks runner (runOn runner texts).2 .out 0 :=
    ⟨Nat.zero_le 0, "> GET a\n".toList, by decide +kernel⟩
  rcases refused_writes_are_accounted_for runner texts with
    ⟨hfailed, -⟩ | ⟨summary, hended, -, -, -, hisolated, -⟩
  · rw [hfailed] at hsummary
    cases hsummary
  · rw [hended] at hsummary
    cases hsummary
    exact ⟨hended, hrefused, hisolated .out 0 hrefused⟩

end Runner

end HttpDoctest
