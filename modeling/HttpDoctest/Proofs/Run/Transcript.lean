import HttpDoctest.Proofs.Console.Actions
import HttpDoctest.Proofs.Run.Course

set_option autoImplicit false

/-! # The transcript of a run

What a run prints is read off what becomes of its blocks: `Outcome.onOut` and `Outcome.onErr` for
a block, `closing` for the summary. On consoles that take everything a run follows its course,
prints this and nothing else, and gives the summary of the outcomes (`runOn_of_blocks`).
-/

namespace HttpDoctest

open Console (Action)

/-! ## What is printed -/

namespace Transcript

/-- How a header line is shown. -/
def header (mark : String) (entry : String × String) : Action :=
  .log (mark ++ entry.1 ++ ": " ++ entry.2).toList

/-- How a body is shown. -/
def body (mark text : String) : List Action :=
  [.format Ansi.cyan, .log (Text.markLines mark.toList text.toList), .format Ansi.reset]

/-- How a request is shown. -/
def request (request : Request) : List Action :=
  .log ("> " ++ request.method.name ++ " " ++ request.url).toList ::
    (request.headers.entries.map (header "> ") ++ request.body.elim [] (body "> "))

/-- How the headers of a response are shown. -/
def response (response : Response) : List Action :=
  response.headers.entries.map (header "< ")

/-- The code of a colour, if colours are switched on. -/
def code (color : Bool) (sequence : List Char) : List Char :=
  if color then sequence else []

/-- The report on an assertion. -/
def verdict (color : Bool) (verdict : Verdict) : List Char :=
  code color (if verdict.holds then Ansi.green else Ansi.red) ++
    ("test: [ " ++ Text.trimmed verdict.source ++ " ] has " ++
      if verdict.holds then "passed" else "failed").toList ++
    code color Ansi.reset

/-- The report on an aborted block. -/
def abort (number : Nat) (failure : Failure) : List Char :=
  ("[ERROR] request #" ++ toString number ++ " aborted: " ++ failure.message).toList

/-- How a summary is shown. -/
def closing (summary : Summary) : List Action :=
  [.format (if summary.isSuccess then Ansi.green else Ansi.red), .log summary.text.toList,
    .format Ansi.reset, .flush]

end Transcript

namespace Outcome

/-- What a block shows by itself. -/
def shown (color : Bool) (outcome : Outcome) : List Action :=
  outcome.request.elim [] Transcript.request ++ outcome.response.elim [] Transcript.response ++
    outcome.json.elim [] (fun json => Transcript.body "< " json.pretty) ++
    outcome.verdicts.map fun verdict => .log (Transcript.verdict color verdict)

/-- All that is asked of the standard output for a block. -/
def onOut (color : Bool) (outcome : Outcome) : List Action :=
  outcome.shown color ++ outcome.failure.elim [] (fun _ => [.reset]) ++ [.insertLineFeeds 2]

/-- All that is asked of the error output for the block with a given number. -/
def onErr (number : Nat) (outcome : Outcome) : List Action :=
  outcome.failure.elim [] fun failure =>
    [.format Ansi.red, .log (Transcript.abort number failure), .format Ansi.reset, .reset]

/-- All that is asked of the error output for blocks that are numbered from `first` on. -/
def onErrFrom (first : Nat) : List Outcome → List Action
  | [] => []
  | outcome :: outcomes => outcome.onErr first ++ onErrFrom (first + 1) outcomes

/-- What a block gives. -/
def result (outcome : Outcome) : Except Failure Bool :=
  outcome.failure.elim (.ok (outcome.verdicts.all (·.holds))) .error

end Outcome

/-! ## Printing -/

namespace Console

theorem takesAll_afterAll {console : Console} (h : console.sink.TakesAll) (actions : List Action) :
    (console.afterAll actions).sink.TakesAll := by
  induction actions generalizing console with
  | nil => exact h
  | cons action actions ih => exact ih (takesAll_after h action)

theorem color_afterAll {console : Console} (h : console.sink.TakesAll) (actions : List Action) :
    (console.afterAll actions).color = console.color := by
  induction actions generalizing console with
  | nil => rfl
  | cons action actions ih =>
      rw [afterAll_cons, ih (takesAll_after h action), color_after h]

end Console

namespace Runner

/-- The runner with another store and another client, after actions on its two outputs. -/
def advance (runner : Runner) (store : Store) (client : Client) (out err : List Action) : Runner :=
  { runner with
    store := store
    client := client
    out := runner.out.afterAll out
    err := runner.err.afterAll err }

/-- The runner after actions on its two outputs. -/
def print (runner : Runner) (out err : List Action) : Runner :=
  runner.advance runner.store runner.client out err

theorem advance_advance (runner : Runner) (store store' : Store) (client client' : Client)
    (out err out' err' : List Action) :
    (runner.advance store client out err).advance store' client' out' err' =
      runner.advance store' client' (out ++ out') (err ++ err') := by
  simp only [advance, Console.afterAll_append]

theorem advance_print (runner : Runner) (store : Store) (client : Client)
    (out err out' err' : List Action) :
    (runner.advance store client out err).print out' err' =
      runner.advance store client (out ++ out') (err ++ err') :=
  advance_advance ..

/-- Whether neither output of a runner ever fails. -/
structure TakesAll (runner : Runner) : Prop where
  out : runner.out.sink.TakesAll
  err : runner.err.sink.TakesAll

section TakesAll

variable {runner : Runner} (h : runner.TakesAll)
include h

theorem TakesAll.advance (store : Store) (client : Client) (out err : List Action) :
    (runner.advance store client out err).TakesAll :=
  ⟨Console.takesAll_afterAll h.out out, Console.takesAll_afterAll h.err err⟩

theorem TakesAll.color_advance (store : Store) (client : Client) (out err : List Action) :
    (runner.advance store client out err).out.color = runner.out.color :=
  Console.color_afterAll h.out out

end TakesAll

@[simp] theorem exec_demand_ok {ε α : Type} (failure : ε → Failure) (value : α)
    (runner : Runner) : exec (demand failure (.ok value)) runner = (.ok value, runner) := rfl

@[simp] theorem exec_demand_error {ε α : Type} (failure : ε → Failure) (error : ε)
    (runner : Runner) :
    exec (demand (α := α) failure (.error error)) runner = (.error (failure error), runner) := rfl

/-- Whether all that an action does, where no output fails, is to print. -/
def Prints (action : Run Unit) (out err : List Action) : Prop :=
  ∀ runner : Runner, runner.TakesAll → exec action runner = (.ok (), runner.print out err)

theorem Prints.seq {first second : Run Unit} {out err out' err' : List Action}
    (hfirst : Prints first out err) (hsecond : Prints second out' err') :
    Prints (first >>= fun _ => second) (out ++ out') (err ++ err') := by
  intro runner h
  rw [exec_bind_of_ok (hfirst runner h), print, hsecond _ (h.advance ..), advance_print]
  rfl

theorem prints_pure : Prints (pure ()) [] [] := fun _ _ => rfl

theorem exec_onOut (action : Printing Unit) (runner : Runner) :
    exec (onOut action) runner =
      ((exec action runner.out).1.mapError fun _ => .consoleClosed,
        { runner with out := (exec action runner.out).2 }) := by
  have hrun : action.run.run runner.out = exec action runner.out := rfl
  rw [onOut, exec_bind_of_ok (exec_get runner), hrun]
  rcases exec action runner.out with ⟨_ | _, _⟩ <;> rfl

theorem exec_onErr (action : Printing Unit) (runner : Runner) :
    exec (onErr action) runner =
      ((exec action runner.err).1.mapError fun _ => .consoleClosed,
        { runner with err := (exec action runner.err).2 }) := by
  have hrun : action.run.run runner.err = exec action runner.err := rfl
  rw [onErr, exec_bind_of_ok (exec_get runner), hrun]
  rcases exec action runner.err with ⟨_ | _, _⟩ <;> rfl

theorem prints_onOut (action : Action) : Prints (onOut action.perform) [action] [] := by
  intro runner h
  rw [exec_onOut, Console.exec_perform_after h.out]
  rfl

theorem prints_onErr (action : Action) : Prints (onErr action.perform) [] [action] := by
  intro runner h
  rw [exec_onErr, Console.exec_perform_after h.err]
  rfl

theorem prints_showHeaders (mark : String) (entries : List (String × String)) :
    Prints (entries.forM (showHeader mark)) (entries.map (Transcript.header mark)) [] := by
  induction entries with
  | nil => exact prints_pure
  | cons entry entries ih => exact (prints_onOut (Transcript.header mark entry)).seq ih

theorem prints_showBody (mark text : String) :
    Prints (showBody mark text) (Transcript.body mark text) [] :=
  (prints_onOut (.format Ansi.cyan)).seq
    ((prints_onOut (.log (Text.markLines mark.toList text.toList))).seq
      (prints_onOut (.format Ansi.reset)))

theorem prints_showRequest (request : Request) :
    Prints (showRequest request) (Transcript.request request) [] := by
  refine (prints_onOut (.log ("> " ++ request.method.name ++ " " ++ request.url).toList)).seq
    ((prints_showHeaders "> " request.headers.entries).seq ?_)
  cases request.body with
  | none => exact prints_pure
  | some body => exact prints_showBody "> " body

theorem prints_reportFailure (number : Nat) (failure : Failure) :
    Prints (reportFailure number failure) [.reset]
      [.format Ansi.red, .log (Transcript.abort number failure), .format Ansi.reset, .reset] :=
  (prints_onOut .reset).seq ((prints_onErr (.format Ansi.red)).seq
    ((prints_onErr (.log (Transcript.abort number failure))).seq
      ((prints_onErr (.format Ansi.reset)).seq (prints_onErr .reset))))

theorem prints_printSummary (summary : Summary) :
    Prints (printSummary summary) (Transcript.closing summary) [] :=
  (prints_onOut (.format (if summary.isSuccess then Ansi.green else Ansi.red))).seq
    ((prints_onOut (.log summary.text.toList)).seq
      ((prints_onOut (.format Ansi.reset)).seq (prints_onOut .flush)))

theorem exec_reportAssertion {runner : Runner} (h : runner.TakesAll) (verdict : Verdict) :
    exec (reportAssertion verdict.source verdict.holds) runner =
      (.ok (), runner.print [.log (Transcript.verdict runner.out.color verdict)] []) :=
  (exec_bind_of_ok (exec_get runner) _).trans
    (prints_onOut (.log (Transcript.verdict runner.out.color verdict)) runner h)

/-! ## Blocks -/

/-- The trailers of a block take their course, and each verdict is reported. -/
theorem exec_carryOut {context : Context} {store store' : Store} {steps : List Step}
    {verdicts : List Verdict} {error : Option ExprError}
    (hcourse : Course.Trailers context store steps store' verdicts error) {runner : Runner}
    (h : runner.TakesAll) (hstore : runner.store = store) (passed : Bool) :
    exec (carryOut context passed steps) runner =
      ((error.map .expression).elim (.ok (passed && verdicts.all (·.holds))) .error,
        runner.advance store' runner.client
          (verdicts.map fun verdict => .log (Transcript.verdict runner.out.color verdict)) []) := by
  induction hcourse generalizing runner passed with
  | finish store =>
      subst hstore
      rw [carryOut, exec_pure, List.all_nil, Bool.and_true]
      rfl
  | @check store store' assertion value steps verdicts error hvalue _ ih =>
      subst hstore
      have hholds : assertion.holds ⟨context, runner.store⟩ = .ok value.isTruthy := by
        rw [Assertion.holds, hvalue]
        rfl
      have hreport : exec (reportAssertion assertion.source value.isTruthy) runner = _ :=
        exec_reportAssertion h ⟨assertion.source, value.isTruthy⟩
      simp only [carryOut, exec_bind, exec_get, hholds, exec_demand_ok, hreport]
      rw [print, ih (h.advance ..) rfl (passed && value.isTruthy), h.color_advance,
        advance_advance, List.all_cons, Bool.and_assoc]
      rfl
  | @checkFails store assertion steps error hvalue =>
      -- no verdict is reported for an assertion without a value
      subst hstore
      have hholds : assertion.holds ⟨context, runner.store⟩ = .error error := by
        rw [Assertion.holds, hvalue]
        rfl
      simp only [carryOut, exec_bind, exec_get, hholds, exec_demand_error]
      rfl
  | @perform store between store' effect steps verdicts error hcompleted _ ih =>
      subst hstore
      have hrun : effect.execute context runner.store = (between, .ok ()) :=
        Course.runAll_of_completed hcompleted
      simp only [carryOut, exec_bind, exec_get, hrun, exec_demand_ok]
      exact ih (h.advance between runner.client [] []) rfl passed
  | @performFails store store' effect done undone failing steps error hsplit hdone hfailing =>
      subst hstore
      have hrun : effect.execute context runner.store = (store', .error error) := by
        rw [SideEffect.execute, hsplit]
        exact Course.runAll_of_failed hdone hfailing
      simp only [carryOut, exec_bind, exec_get, hrun, exec_demand_error]
      rfl

theorem exec_send {runner : Runner} {request : Request} {answer : Except Failure Response}
    {client : Client}
    (h : runner.client.exchange request.withContentLength = (answer, client)) :
    exec (send request) runner = (answer, runner.advance runner.store client [] []) := by
  simp only [send, exec_bind, exec_get, h]
  cases answer <;> rfl

/-- What a block does up to the answer of the client, if it gets that far. -/
theorem exec_runBlock_of_prepared {text : String} {runner : Runner} (h : runner.TakesAll)
    {block : RequestBlock} {steps : List Step} {request : Request}
    (hready : Course.Prepared runner.missing text runner.store block steps request)
    {answer : Except Failure Response} {client : Client}
    (hanswer : runner.client.exchange request.withContentLength = (answer, client)) :
    exec (runBlock text) runner =
      match answer with
      | .error failure =>
          (.error failure, runner.advance runner.store client (Transcript.request request) [])
      | .ok response =>
          exec (do
            response.headers.entries.forM (showHeader "< ")
            let json? ← demand .json (runner.jsonPolicy.decode response)
            match json? with
            | some json => showBody "< " json.pretty
            | none => pure ()
            carryOut (Course.contextOf response json?) true steps)
          (runner.advance runner.store client (Transcript.request request) []) := by
  have hsend : exec (send request) (runner.print (Transcript.request request) []) =
      (answer, (runner.print (Transcript.request request) []).advance runner.store client [] []) :=
    exec_send hanswer
  rw [print, advance_advance, List.append_nil, ← print] at hsend
  have hcompiled := Course.mapM_compile_of_compiled hready.compiled
  simp only [runBlock, exec_bind, hready.read, hcompiled, hready.filled, exec_get, exec_demand_ok,
    prints_showRequest request runner h, hsend]
  cases answer <;> rfl

/-- A block takes its course and shows what becomes of it. -/
theorem exec_runBlock {text : String} {runner : Runner} (h : runner.TakesAll)
    {outcome : Outcome} {store : Store} {client : Client}
    (hcourse : Course.Block runner.missing runner.jsonPolicy text runner.store runner.client
      outcome store client) :
    exec (runBlock text) runner =
      (outcome.result, runner.advance store client (outcome.shown runner.out.color) []) := by
  cases hcourse with
  | noRequest hread =>
      simp only [runBlock, exec_bind, hread, exec_demand_error]
      rfl
  | @notCompiled block front behind failing error hread hsplit hfront hfails =>
      have hcompiled : block.trailers.mapM Trailer.compile = .error error :=
        hsplit ▸ Course.mapM_compile_of_failed hfront hfails
      simp only [runBlock, exec_bind, hread, hcompiled, exec_demand_ok, exec_demand_error]
      rfl
  | notFilled hread hsteps hfilled =>
      have hcompiled := Course.mapM_compile_of_compiled hsteps
      simp only [runBlock, exec_bind, hread, hcompiled, hfilled, exec_get, exec_demand_ok,
        exec_demand_error]
      rfl
  | notAnswered hready hanswer =>
      rw [exec_runBlock_of_prepared h hready hanswer]
      simp only [Outcome.shown, Option.elim_some, Option.elim_none, List.append_nil, List.map_nil]
      rfl
  | @notDecoded block steps request response client error hready hanswer hjson =>
      have hheaders := prints_showHeaders "< " response.headers.entries _
        (h.advance runner.store client (Transcript.request request) [])
      rw [advance_print] at hheaders
      rw [exec_runBlock_of_prepared h hready hanswer]
      simp only [exec_bind, hheaders, hjson, exec_demand_error]
      simp only [Outcome.shown, Option.elim_some, Option.elim_none, List.append_nil, List.map_nil]
      rfl
  | @carriedOut block steps request response client json store verdicts error hready hanswer hjson
      htrailers =>
      have hheaders := prints_showHeaders "< " response.headers.entries _
        (h.advance runner.store client (Transcript.request request) [])
      rw [advance_print] at hheaders
      -- the trailers are the same with and without a JSON value, only the print in front differs
      have htail : ∀ before : List Action,
          exec (carryOut (Course.contextOf response json) true steps)
            (runner.advance runner.store client before []) =
          (Outcome.result ⟨some request, some response, json, verdicts, error.map .expression⟩,
            runner.advance store client (before ++ verdicts.map fun verdict =>
              .log (Transcript.verdict runner.out.color verdict)) []) := by
        intro before
        rw [exec_carryOut htrailers (h.advance ..) rfl true, h.color_advance, advance_advance]
        rfl
      rw [exec_runBlock_of_prepared h hready hanswer]
      simp only [exec_bind, hheaders, hjson, exec_demand_ok]
      cases json with
      | none =>
          refine (htail _).trans ?_
          simp only [Outcome.shown, Option.elim_some, Option.elim_none, List.append_nil]
          rfl
      | some json =>
          have hbody := prints_showBody "< " json.pretty _ (h.advance runner.store client
            (Transcript.request request ++ Transcript.response response) [])
          rw [advance_print] at hbody
          exact (exec_bind_of_ok hbody _).trans (htail _)

/-- The next block takes its course, is reported if it is aborted, and is summed up. -/
theorem exec_runNext {text : String} {runner : Runner} (h : runner.TakesAll) {outcome : Outcome}
    {store : Store} {client : Client}
    (hcourse : Course.Block runner.missing runner.jsonPolicy text runner.store runner.client
      outcome store client) (summary : Summary) :
    exec (runNext summary text) runner =
      (.ok (summary.record outcome.passed),
        runner.advance store client (outcome.onOut runner.out.color)
          (outcome.onErr (summary.total + 1))) := by
  have hblock := exec_lift_run (runBlock text) runner
  rw [exec_runBlock h hcourse] at hblock
  refine (exec_bind_of_ok hblock _).trans ?_
  have hshown := h.advance store client (outcome.shown runner.out.color) []
  unfold Outcome.result Outcome.passed Outcome.onOut Outcome.onErr
  -- the failure of a block ends here, whatever it is, as the result of a lifted action
  cases outcome.failure with
  | none =>
      refine (exec_bind_of_ok (prints_onOut (.insertLineFeeds 2) _ hshown) _).trans ?_
      rw [exec_pure, advance_print]
      simp
  | some failure =>
      have hreport := prints_reportFailure (summary.total + 1) failure _ hshown
      refine (exec_bind_of_ok hreport _).trans ?_
      rw [advance_print]
      refine (exec_bind_of_ok (prints_onOut (.insertLineFeeds 2) _ (h.advance ..)) _).trans ?_
      rw [exec_pure, advance_print]
      simp

/-! ## All blocks -/

/-- Blocks take their course one after the other, and are summed up behind those in front. -/
theorem exec_runBlocks {mode : MissingValue} {policy : JsonPolicy} {store store' : Store}
    {client client' : Client} {texts : List String} {outcomes : List Outcome}
    (hcourse : Course.Blocks mode policy store client texts outcomes store' client')
    {runner : Runner} (h : runner.TakesAll) (hmode : runner.missing = mode)
    (hpolicy : runner.jsonPolicy = policy) (hstore : runner.store = store)
    (hclient : runner.client = client) (summary : Summary) :
    exec (texts.foldlM runNext summary) runner =
      (.ok ⟨summary.successes + outcomes.countP Outcome.passed, summary.total + outcomes.length⟩,
        runner.advance store' client' (outcomes.flatMap (Outcome.onOut runner.out.color))
          (Outcome.onErrFrom (summary.total + 1) outcomes)) := by
  induction hcourse generalizing runner summary with
  | nil store client =>
      subst hstore hclient
      rfl
  | @cons store between store' client mid client' text texts outcome outcomes hblock _ ih =>
      subst hmode hpolicy hstore hclient
      have hnext := exec_runNext h hblock summary
      -- the hypotheses on mode, policy, store and client hold of the advanced runner by definition
      rw [List.foldlM_cons, exec_bind_of_ok hnext,
        ih (h.advance ..) rfl rfl rfl rfl (summary.record outcome.passed), h.color_advance,
        advance_advance]
      have hsuccesses : (summary.record outcome.passed).successes +
          outcomes.countP Outcome.passed =
          summary.successes + (outcome :: outcomes).countP Outcome.passed := by
        simp only [Summary.record, List.countP_cons]
        split <;> omega
      have htotal : (summary.record outcome.passed).total + outcomes.length =
          summary.total + (outcome :: outcomes).length := by
        simp only [Summary.record, List.length_cons]
        omega
      rw [hsuccesses, htotal]
      rfl

/-- **A run follows its course.** Where no output fails, a run ends with the summary of what
becomes of its blocks, with the store and the client that the last block leaves, and with the
transcript on its outputs. -/
theorem runOn_of_blocks {runner : Runner} (h : runner.TakesAll) {texts : List String}
    {outcomes : List Outcome} {store : Store} {client : Client}
    (hcourse : Course.Blocks runner.missing runner.jsonPolicy runner.store runner.client texts
      outcomes store client) :
    runOn runner texts =
      (.ok ⟨outcomes.countP Outcome.passed, outcomes.length⟩,
        runner.advance store client
          (outcomes.flatMap (Outcome.onOut runner.out.color) ++
            Transcript.closing ⟨outcomes.countP Outcome.passed, outcomes.length⟩)
          (Outcome.onErrFrom 1 outcomes)) := by
  have hblocks := exec_runBlocks hcourse h rfl rfl rfl rfl .empty
  simp only [Summary.empty, Nat.zero_add] at hblocks
  refine (exec_bind_of_ok hblocks _).trans ?_
  refine (exec_bind_of_ok (prints_printSummary _ _ (h.advance ..)) _).trans ?_
  rw [exec_pure, advance_print, List.append_nil]

end Runner

end HttpDoctest
