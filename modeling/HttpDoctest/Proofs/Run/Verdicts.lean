import HttpDoctest.Proofs.Run.Transcript

set_option autoImplicit false

/-! # Verdicts and reports

Where no console fails, a run counts every block, and counts as a success every block that came
to its end with assertions that all hold. On the standard output there is one report for each
assertion of such a block, on the error output one for each block that was aborted
(`runOn_counts_and_reports`).
-/

namespace HttpDoctest

open Console (Action)

/-! ## Every assertion gets a verdict -/

/-- The source of a trailer that is an assertion. -/
def Trailer.assertion? : Trailer → Option String
  | .assertion source => some source
  | .sideEffect _ => none

theorem RequestBlock.assertions_eq_filterMap (block : RequestBlock) :
    block.assertions = block.trailers.filterMap Trailer.assertion? := by
  refine congrArg (block.trailers.filterMap ·) (funext fun trailer => ?_)
  cases trailer <;> rfl

namespace Course

/-- A compiled trailer is an assertion with the same source, or is none. -/
theorem Compiles.assertion?_eq {trailer : Trailer} {step : Step} (h : Compiles trailer step) :
    step.assertion? = trailer.assertion? := by
  cases h <;> rfl

theorem assertions_of_compiled {trailers : List Trailer} {steps : List Step}
    (h : List.Forall₂ Compiles trailers steps) :
    steps.filterMap Step.assertion? = trailers.filterMap Trailer.assertion? := by
  induction h with
  | nil => rfl
  | cons hstep _ ih =>
      rw [List.filterMap_cons, List.filterMap_cons, hstep.assertion?_eq, ih]

theorem Prepared.assertions {mode : MissingValue} {text : String} {store : Store}
    {block : RequestBlock} {steps : List Step} {request : Request}
    (h : Prepared mode text store block steps request) :
    steps.filterMap Step.assertion? = block.assertions :=
  (assertions_of_compiled h.compiled).trans block.assertions_eq_filterMap.symm

/-- Trailers that are not given up give a verdict for each of their assertions. -/
theorem Trailers.sources {context : Context} {store store' : Store} {steps : List Step}
    {verdicts : List Verdict} {error : Option ExprError}
    (h : Trailers context store steps store' verdicts error) (hnone : error = none) :
    verdicts.map (·.source) = steps.filterMap Step.assertion? := by
  induction h with
  | finish => rfl
  | check _ _ ih => exact congrArg (_ :: ·) (ih hnone)
  | checkFails => cases hnone
  | perform _ _ ih => exact ih hnone
  | performFails => cases hnone

/-- Whether a block that came to its end gave a verdict for each of its assertions. -/
def Judged (text : String) (outcome : Outcome) : Prop :=
  outcome.failure = none → ∃ block, RequestBlock.ofString text = .ok block ∧
    outcome.verdicts.map (·.source) = block.assertions

theorem Block.judged {mode : MissingValue} {policy : JsonPolicy} {text : String}
    {store store' : Store} {client client' : Client} {outcome : Outcome}
    (h : Block mode policy text store client outcome store' client') : Judged text outcome := by
  intro hnone
  cases h with
  | noRequest => cases hnone
  | notCompiled => cases hnone
  | notFilled => cases hnone
  | notAnswered => cases hnone
  | notDecoded => cases hnone
  | @carriedOut block _ _ _ _ _ _ _ error hready _ _ htrailers =>
      have herror : error = none := Option.map_eq_none_iff.1 hnone
      exact ⟨block, hready.read, (htrailers.sources herror).trans hready.assertions⟩

theorem Blocks.judged {mode : MissingValue} {policy : JsonPolicy} {store store' : Store}
    {client client' : Client} {texts : List String} {outcomes : List Outcome}
    (h : Blocks mode policy store client texts outcomes store' client') :
    List.Forall₂ Judged texts outcomes := by
  induction h with
  | nil => exact .nil
  | cons hblock _ ih => exact .cons hblock.judged ih

end Course

/-! ## Which chunks are reports -/

namespace Transcript

/-- How every report on an assertion starts. -/
def verdictMark : List Char := "test: [ ".toList

/-- How every report on an aborted block starts. -/
def abortMark : List Char := "[ERROR] request #".toList

/-- The reports on the aborted ones of some blocks, the first of which has number `first`. -/
def aborts (first : Nat) (outcomes : List Outcome) : List (List Char) :=
  (outcomes.zipIdx first).filterMap fun (outcome, number) =>
    outcome.failure.map fun failure => abort number failure ++ ['\n']

theorem aborts_cons (first : Nat) (outcome : Outcome) (outcomes : List Outcome) :
    aborts first (outcome :: outcomes) =
      (outcome.failure.elim [] fun failure => [abort first failure ++ ['\n']]) ++
        aborts (first + 1) outcomes := by
  rw [aborts, List.zipIdx_cons, List.filterMap_cons]
  dsimp only
  cases outcome.failure <;> rfl

/-- The reports on the assertions of a block. -/
def verdicts (color : Bool) (outcome : Outcome) : List (List Char) :=
  outcome.verdicts.map fun v => verdict color v ++ ['\n']

theorem strip_code {color : Bool} {sequence : List Char} (h : Ansi.strip sequence = []) :
    Ansi.strip (code color sequence) = [] := by
  cases color
  · exact Ansi.strip_nil
  · exact h

theorem opensWith_verdict (color : Bool) (v : Verdict) :
    Ansi.opensWith verdictMark (verdict color v ++ ['\n']) = true := by
  have hcode : Ansi.strip (code color (if v.holds then Ansi.green else Ansi.red)) = [] :=
    strip_code (by split <;> simp)
  simp only [verdict, String.toList_append, List.append_assoc]
  exact Ansi.opensWith_of_strip_eq_append hcode (by decide) _

theorem opensWith_abort (number : Nat) (failure : Failure) :
    Ansi.opensWith abortMark (abort number failure ++ ['\n']) = true := by
  simp only [abort, String.toList_append, List.append_assoc]
  exact Ansi.opensWith_of_strip_eq_append Ansi.strip_nil (by decide) _

/-- The first character of a number is a digit. -/
theorem exists_toList_toString (n : Nat) :
    ∃ digit digits, (toString n).toList = digit :: digits ∧ digit.isDigit = true := by
  rw [Nat.toString_eq_repr, Nat.toList_repr]
  cases hdigits : Nat.toDigits 10 n with
  | nil => exact absurd hdigits Nat.toDigits_ne_nil
  | cons digit digits =>
      refine ⟨digit, digits, rfl, ?_⟩
      exact Nat.isDigit_of_mem_toDigits (by decide) (by decide)
        (hdigits ▸ List.mem_cons_self)

/-! ### What each piece of a transcript reports -/

/-- Whether actions hold back nothing but codes, and log exactly `chunks` among the texts that
start with `mark`. -/
structure Reports (mark : List Char) (actions : List Action) (chunks : List (List Char)) :
    Prop where
  colours : ∀ action ∈ actions, action.Colours
  filtered : (actions.flatMap Action.logged).filter (Ansi.opensWith mark) = chunks

theorem Reports.nil (mark : List Char) : Reports mark [] [] where
  colours := fun _ h => nomatch h
  filtered := rfl

theorem Reports.append {mark : List Char} {actions actions' : List Action}
    {chunks chunks' : List (List Char)} (h : Reports mark actions chunks)
    (h' : Reports mark actions' chunks') :
    Reports mark (actions ++ actions') (chunks ++ chunks') where
  colours := fun action ha => (List.mem_append.1 ha).elim (h.colours action) (h'.colours action)
  filtered := by rw [List.flatMap_append, List.filter_append, h.filtered, h'.filtered]

theorem Reports.flatMap {α : Type} {mark : List Char} {actions : α → List Action}
    {chunks : α → List (List Char)} (h : ∀ x, Reports mark (actions x) (chunks x)) (xs : List α) :
    Reports mark (xs.flatMap actions) (xs.flatMap chunks) := by
  induction xs with
  | nil => exact .nil mark
  | cons x xs ih => exact (h x).append ih

/-- Actions that log nothing report nothing. -/
theorem Reports.of_silent {mark : List Char} {action : Action} (hcolours : action.Colours)
    (hsilent : action.logged = []) : Reports mark [action] [] where
  colours := fun a ha => List.mem_singleton.1 ha ▸ hcolours
  filtered := by rw [List.flatMap_cons, hsilent, List.flatMap_nil, List.append_nil, List.filter_nil]

theorem Reports.of_log {mark text : List Char} (h : Ansi.opensWith mark (text ++ ['\n']) = true) :
    Reports mark [.log text] [text ++ ['\n']] where
  colours := fun _ ha => List.mem_singleton.1 ha ▸ trivial
  filtered := List.filter_cons_of_pos h

/-- A text whose first character is another one than that of `mark` is no report. -/
theorem Reports.of_log_ne {m c : Char} {mark text : List Char} (hc : c ≠ Ansi.escape)
    (hm : m ≠ c) : Reports (m :: mark) [.log (c :: text)] [] where
  colours := fun _ ha => List.mem_singleton.1 ha ▸ trivial
  filtered := List.filter_cons_of_neg
    (Bool.not_eq_true _ ▸ Ansi.opensWith_cons_of_ne hc hm mark (text ++ ['\n']))

section Pieces

variable {m c : Char} (hc : c ≠ Ansi.escape) (hm : m ≠ c)
include hc hm

theorem reports_header (mark : List Char) {sign : String} {after : List Char}
    (hsign : sign.toList = c :: after) (entries : List (String × String)) :
    Reports (m :: mark) (entries.map (header sign)) [] := by
  induction entries with
  | nil => exact .nil _
  | cons entry entries ih =>
      have hfirst : Reports (m :: mark) [header sign entry] [] := by
        rw [header, String.toList_append, String.toList_append, String.toList_append, hsign]
        exact .of_log_ne hc hm
      exact hfirst.append ih

theorem reports_body (mark : List Char) {sign : String} {after : List Char}
    (hsign : sign.toList = c :: after) (text : String) :
    Reports (m :: mark) (body sign text) [] := by
  have hlog : Reports (m :: mark) [.log (Text.markLines sign.toList text.toList)] [] := by
    rw [Text.markLines, hsign]
    exact .of_log_ne hc hm
  have hformat : Reports (m :: mark) [.format Ansi.cyan] [] := .of_silent Ansi.strip_cyan rfl
  have hreset : Reports (m :: mark) [.format Ansi.reset] [] := .of_silent Ansi.strip_reset rfl
  exact hformat.append (hlog.append hreset)

end Pieces

theorem reports_request (mark : List Char) {m : Char} (hm : m ≠ '>') (sent : Request) :
    Reports (m :: mark) (request sent) [] := by
  have hescape : '>' ≠ Ansi.escape := by decide
  have hline : Reports (m :: mark)
      [.log ("> " ++ sent.method.name ++ " " ++ sent.url).toList] [] := by
    rw [String.toList_append, String.toList_append, String.toList_append]
    exact .of_log_ne hescape hm
  have hbody : Reports (m :: mark) (sent.body.elim [] (body "> ")) [] := by
    cases sent.body with
    | none => exact .nil _
    | some text => exact reports_body hescape hm mark rfl text
  exact hline.append ((reports_header hescape hm mark rfl _).append hbody)

theorem reports_closing (mark : List Char) {m : Char} (hm : m.isDigit = false)
    (summary : Summary) : Reports (m :: mark) (closing summary) [] := by
  obtain ⟨digit, digits, hdigits, hdigit⟩ := exists_toList_toString summary.successes
  have hescape : digit ≠ Ansi.escape := by
    rintro rfl
    exact absurd hdigit (by decide)
  have hne : m ≠ digit := by
    rintro rfl
    exact absurd (hm.symm.trans hdigit) Bool.false_ne_true
  have hformat : Reports (m :: mark)
      [.format (if summary.isSuccess then Ansi.green else Ansi.red)] [] :=
    .of_silent (by show Ansi.strip _ = []; split <;> simp) rfl
  have hlog : Reports (m :: mark) [.log summary.text.toList] [] := by
    rw [Summary.text, String.toList_append, String.toList_append, String.toList_append, hdigits]
    exact .of_log_ne hescape hne
  have hreset : Reports (m :: mark) [.format Ansi.reset] [] := .of_silent Ansi.strip_reset rfl
  have hflush : Reports (m :: mark) [.flush] [] := .of_silent trivial rfl
  exact hformat.append (hlog.append (hreset.append hflush))

/-- The verdicts of a block are reported on the standard output, and nothing else is. -/
theorem reports_onOut (color : Bool) (outcome : Outcome) :
    Reports verdictMark (outcome.onOut color) (verdicts color outcome) := by
  have hrequest : Reports verdictMark (outcome.request.elim [] request) [] := by
    cases outcome.request with
    | none => exact .nil _
    | some sent => exact reports_request _ (by decide) sent
  have hresponse : Reports verdictMark (outcome.response.elim [] response) [] := by
    cases outcome.response with
    | none => exact .nil _
    | some answer => exact reports_header (c := '<') (by decide) (by decide) _ rfl _
  have hjson : Reports verdictMark
      (outcome.json.elim [] fun json => body "< " json.pretty) [] := by
    cases outcome.json with
    | none => exact .nil _
    | some json => exact reports_body (c := '<') (by decide) (by decide) _ rfl _
  have hverdicts : Reports verdictMark
      (outcome.verdicts.map fun v => .log (verdict color v)) (verdicts color outcome) := by
    unfold verdicts
    induction outcome.verdicts with
    | nil => exact .nil _
    | cons v rest ih => exact (Reports.of_log (opensWith_verdict color v)).append ih
  have hfailure : Reports verdictMark (outcome.failure.elim [] fun _ => [.reset]) [] := by
    cases outcome.failure with
    | none => exact .nil _
    | some failure => exact .of_silent trivial rfl
  have hfeeds : Reports verdictMark [.insertLineFeeds 2] [] := .of_silent trivial rfl
  have hall := (((hrequest.append hresponse).append hjson).append hverdicts).append hfailure
    |>.append hfeeds
  rwa [List.append_nil, List.append_nil] at hall

/-- The abortion of a block is reported on the error output, and nothing else is. -/
theorem reports_onErr (number : Nat) (outcome : Outcome) :
    Reports abortMark (outcome.onErr number)
      (outcome.failure.elim [] fun failure => [abort number failure ++ ['\n']]) := by
  unfold Outcome.onErr
  cases outcome.failure with
  | none => exact .nil _
  | some failure =>
      have hred : Reports abortMark [.format Ansi.red] [] := .of_silent Ansi.strip_red rfl
      have hformat : Reports abortMark [.format Ansi.reset] [] := .of_silent Ansi.strip_reset rfl
      have hreset : Reports abortMark [.reset] [] := .of_silent trivial rfl
      exact hred.append
        ((Reports.of_log (opensWith_abort number failure)).append (hformat.append hreset))

theorem reports_onErrFrom (first : Nat) (outcomes : List Outcome) :
    Reports abortMark (Outcome.onErrFrom first outcomes) (aborts first outcomes) := by
  induction outcomes generalizing first with
  | nil => exact .nil _
  | cons outcome outcomes ih =>
      rw [aborts_cons]
      exact (reports_onErr first outcome).append (ih (first + 1))

end Transcript

/-! ## Counts and reports of a run -/

namespace Course

theorem Blocks.length_eq {mode : MissingValue} {policy : JsonPolicy} {store store' : Store}
    {client client' : Client} {texts : List String} {outcomes : List Outcome}
    (h : Blocks mode policy store client texts outcomes store' client') :
    outcomes.length = texts.length :=
  h.judged.length_eq.symm

end Course

namespace Runner

open Transcript

/-- **Counts and reports of a run.** Whatever blocks a run is given, where its outputs never fail
it gives one outcome to each block and ends. It counts all blocks, and as successes those that
passed. On the standard output it adds the report of each verdict in order, on the error output
the report of each aborted block with its number, and no other report. -/
theorem runOn_counts_and_reports {runner : Runner} (hout : runner.out.Open)
    (herr : runner.err.Open) (texts : List String) :
    ∃ outcomes store client,
      Course.Blocks runner.missing runner.jsonPolicy runner.store runner.client texts
        outcomes store client ∧
      List.Forall₂ Course.Judged texts outcomes ∧
      (runOn runner texts).1 = .ok ⟨outcomes.countP Outcome.passed, texts.length⟩ ∧
      (runOn runner texts).2.store = store ∧
      (runOn runner texts).2.client = client ∧
      (runOn runner texts).2.out.reports verdictMark =
        runner.out.reports verdictMark ++ outcomes.flatMap (verdicts runner.out.color) ∧
      (runOn runner texts).2.err.reports abortMark =
        runner.err.reports abortMark ++ aborts 1 outcomes ∧
      (runOn runner texts).2.out.Open ∧
      (runOn runner texts).2.err.Open := by
  obtain ⟨outcomes, store, client, hcourse⟩ :=
    Course.exists_blocks runner.missing runner.jsonPolicy runner.store runner.client texts
  have hrun := runOn_of_blocks ⟨hout.takesAll, herr.takesAll⟩ hcourse
  have hreported : Reports verdictMark
      (outcomes.flatMap (Outcome.onOut runner.out.color) ++
        closing ⟨outcomes.countP Outcome.passed, outcomes.length⟩)
      (outcomes.flatMap (verdicts runner.out.color) ++ []) :=
    (Reports.flatMap (reports_onOut runner.out.color) outcomes).append
      (reports_closing _ (by decide) _)
  have haborted := reports_onErrFrom 1 outcomes
  rw [List.append_nil] at hreported
  -- counts, store and client are read off the run, the reports off what its actions log
  refine ⟨outcomes, store, client, hcourse, hcourse.judged, ?_⟩
  rw [hrun, hcourse.length_eq, ← hreported.filtered, ← haborted.filtered]
  refine ⟨rfl, rfl, rfl, ?_, ?_, ?_, ?_⟩
  · rw [← hcourse.length_eq]
    exact hout.reports_afterAll (by decide) _ hreported.colours
  · exact herr.reports_afterAll (by decide) _ haborted.colours
  · rw [← hcourse.length_eq]
    exact hout.afterAll hreported.colours
  · exact herr.afterAll haborted.colours

/-- A run of two blocks, the second of which is no request: the assertion of the first holds and is
reported, the second is reported as aborted, and one of the two passed. -/
theorem runOn_of_request_and_prose :
    let response : Response := ⟨200, .empty, "ok"⟩
    let runner := start {} (.scripted [] response) .unlimited .unlimited
    let texts := ["GET http://a\n>body == 'ok'\n", "no request"]
    let out := ["\x1b[32mtest: [ body == 'ok' ] has passed\x1b[0m\n".toList]
    let err := [("[ERROR] request #2 aborted: Parse error: Expected \x60<METHOD> <URL>\x60 at " ++
      "the start of the block, found \"no request\"\n").toList]
    runner.out.Open ∧ runner.err.Open ∧
      (runOn runner texts).1 = .ok ⟨1, 2⟩ ∧
      (runOn runner texts).2.out.reports verdictMark = out ∧
      (runOn runner texts).2.err.reports abortMark = err ∧
      ∃ outcomes : List Outcome, List.Forall₂ Course.Judged texts outcomes ∧
        outcomes.countP Outcome.passed = 1 ∧ outcomes.flatMap (verdicts true) = out ∧
        aborts 1 outcomes = err := by
  intro response runner texts out err
  have hout : runner.out.Open := Console.open_ofSink Sink.takesAll_unlimited _
  have herr : runner.err.Open := Console.open_ofSink Sink.takesAll_unlimited _
  -- the first block is sent and answered, and its assertion is true
  let assertion : Assertion :=
    ⟨"body == 'ok'", .binary .equal (.identifier "body") (.literal (.string "ok"))⟩
  let request : Request := ⟨.get, "http://a", .empty, none⟩
  have htokens : Token.ofSource assertion.source = .ok [⟨.identifier "body", 0⟩,
      ⟨.symbol .equal, 5⟩, ⟨.string "ok", 8⟩] := by decide +kernel
  have hexpression : Expr.ofSource assertion.source = .ok assertion.expression := by
    rw [Expr.ofSource, htokens]
    cbv
  have hvalue : assertion.expression.eval ⟨Course.contextOf response none, .empty⟩ =
      .ok (.bool true) := by
    cbv
  have hready : Course.Prepared .lenient "GET http://a\n>body == 'ok'\n" .empty
      ⟨.get, "http://a", .empty, none, [.assertion assertion.source]⟩ [.check assertion] request :=
    ⟨by decide +kernel, .cons (.assertion hexpression) .nil, by decide +kernel⟩
  have hanswer : runner.client.exchange request.withContentLength = (.ok response, _) := rfl
  have hjson : JsonPolicy.contentType.decode response = .ok none := rfl
  have hfirst := Course.Block.carriedOut hready hanswer hjson (.check hvalue (.finish _))
  -- the second is aborted
  have hsecond (client : Client) : Course.Block .lenient .contentType "no request" .empty client
      { failure := some (.block (.missingRequestLine "no request")) } .empty client :=
    .noRequest rfl
  have hrun := runOn_of_blocks ⟨hout.takesAll, herr.takesAll⟩
    (.cons hfirst (.cons (hsecond _) (.nil _ _)))
  have hsummary : (runOn runner texts).1 = .ok ⟨1, 2⟩ := by
    rw [hrun]
    rfl
  have hreports : (runOn runner texts).2.out.reports verdictMark = out := by
    rw [hrun]
    decide +kernel
  have haborts : (runOn runner texts).2.err.reports abortMark = err := by
    rw [hrun]
    decide +kernel
  obtain ⟨outcomes, _, _, _, hjudged, hcounted, _, _, hverdicts, haborted, _⟩ :=
    runOn_counts_and_reports hout herr texts
  have hpassed : outcomes.countP Outcome.passed = 1 :=
    congrArg Summary.successes (Except.ok.inj (hcounted.symm.trans hsummary))
  exact ⟨hout, herr, hsummary, hreports, haborts, outcomes, hjudged, hpassed,
    hverdicts.symm.trans hreports, haborted.symm.trans haborts⟩

end Runner

end HttpDoctest
