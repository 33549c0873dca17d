import HttpDoctest.Proofs.Console.Painting
import HttpDoctest.Proofs.Run.Colours
import HttpDoctest.Proofs.Run.Escapes

set_option autoImplicit false

/-! # The colours of a run

In a run without escape characters of its own every text is shown in one colour: bodies in cyan,
reports on assertions and the summary in green or red, reports on aborted blocks in red, and request
lines and headers in the colour of plain text. Each piece of a transcript switches its colour off
again (`Paints`), and what is held back at the end of one is written in front of the next thing that
is shown. So the codes come in pairs wherever blocks are aborted (`colours_are_closed`).
-/

namespace HttpDoctest

open Console (Action)
open Ansi (Colour Paired codesOf paint ink scan)
open Template (namesAndValues)

/-- The characters of a text but for its line feeds, all in one colour. -/
def inColour (colour : Colour) (text : List Char) : List (Char × Colour) :=
  (text.filter (· != '\n')).map (·, colour)

/-- Whether actions, begun in no colour, switch every colour off again and show `painted`. -/
structure Paints (actions : List Action) (painted : List (Char × Colour)) : Prop where
  colours : ∀ action ∈ actions, action.Colours
  paired : Paired (codesOf (actions.flatMap (Action.pieces true)))
  shown : paint none (ink (actions.flatMap (Action.pieces true))) = painted

namespace Paints

theorem nil : Paints [] [] where
  colours := fun _ h => nomatch h
  paired := .nil
  shown := rfl

theorem append {actions actions' : List Action} {painted painted' : List (Char × Colour)}
    (h : Paints actions painted) (h' : Paints actions' painted') :
    Paints (actions ++ actions') (painted ++ painted') where
  colours := fun action ha => (List.mem_append.1 ha).elim (h.colours action) (h'.colours action)
  paired := by
    rw [List.flatMap_append, Ansi.codesOf_append]
    exact h.paired.append h'.paired
  shown := by
    -- no colour is active behind the first actions, so the others are shown as if they came first
    have hplain := h.paired.colourAfter
    rw [← Ansi.codesOf_ink] at hplain
    rw [List.flatMap_append, Ansi.ink_append, Ansi.paint_append, hplain, h.shown, h'.shown]

theorem flatMap {α : Type} {actions : α → List Action} {painted : α → List (Char × Colour)}
    {xs : List α} (h : ∀ x ∈ xs, Paints (actions x) (painted x)) :
    Paints (xs.flatMap actions) (xs.flatMap painted) := by
  induction xs with
  | nil => exact .nil
  | cons x xs ih =>
      rw [List.forall_mem_cons] at h
      exact h.1.append (ih h.2)

/-- Actions that neither log nor hold anything show nothing. -/
theorem of_silent {action : Action} (hcolours : action.Colours)
    (h : action.pieces true = []) : Paints [action] [] where
  colours := fun a ha => List.mem_singleton.1 ha ▸ hcolours
  paired := by
    rw [List.flatMap_singleton, h]
    exact .nil
  shown := by
    rw [List.flatMap_singleton, h]
    rfl

end Paints

theorem filter_map_colour (colour : Colour) (text : List Char) :
    (text.map (·, colour)).filter (·.1 != '\n') = inColour colour text := by
  rw [List.filter_map]
  rfl

theorem inColour_lineFeeds (colour : Colour) (count : Nat) :
    inColour colour (List.replicate count '\n') = [] := by
  rw [inColour, List.filter_replicate]
  rfl

theorem inColour_line (colour : Colour) (text : List Char) :
    inColour colour (text ++ ['\n']) = inColour colour text := by
  rw [inColour, List.filter_append]
  simp [inColour]

theorem escape_not_mem_line {text : List Char} (h : Ansi.escape ∉ text) :
    Ansi.escape ∉ text ++ ['\n'] := by
  rw [List.mem_append, List.mem_singleton, not_or]
  exact ⟨h, by decide⟩

namespace Paints

/-- A text without escape characters is shown in the colour that is active. -/
theorem log {text : List Char} (h : Ansi.escape ∉ text) :
    Paints [.log text] (inColour none text) := by
  have hpieces : [Action.log text].flatMap (Action.pieces true) =
      (text ++ ['\n']).map .visible := by
    rw [List.flatMap_singleton, Action.pieces, Ansi.scan_of_not_mem (escape_not_mem_line h)]
  refine ⟨fun a ha => List.mem_singleton.1 ha ▸ trivial, ?_, ?_⟩
  · rw [hpieces, Ansi.codesOf_visible]
    exact .nil
  · rw [hpieces, Ansi.paint_ink, Ansi.paint_visible, filter_map_colour, inColour_line]

/-- A text between the code of a colour and a reset is shown in that colour. -/
theorem between {actions : List Action} {colour text : List Char} {feeds : Nat}
    (hcolours : ∀ action ∈ actions, action.Colours) (hcolour : colour ∈ Ansi.colours)
    (h : actions.flatMap (Action.pieces true) = Ansi.between colour text feeds) :
    Paints actions (inColour (some colour) text) where
  colours := hcolours
  paired := by
    rw [h, Ansi.codesOf_between]
    exact .pair hcolour .nil
  shown := by
    rw [h, Ansi.paint_ink, Ansi.paint_between hcolour, List.filter_append, filter_map_colour,
      filter_map_colour, inColour_lineFeeds, List.append_nil]

/-- A text that is logged between a colour and a reset is shown in that colour. -/
theorem colouredLog {colour text : List Char} (hcolour : colour ∈ Ansi.colours)
    (h : Ansi.escape ∉ text) :
    Paints [.format colour, .log text, .format Ansi.reset] (inColour (some colour) text) := by
  have hpieces : [Action.format colour, .log text, .format Ansi.reset].flatMap
      (Action.pieces true) = Ansi.between colour (text ++ ['\n']) 0 := by
    simp only [List.flatMap_cons, List.flatMap_nil, Action.pieces, if_true,
      Ansi.scan_colour hcolour, Ansi.scan_of_not_mem (escape_not_mem_line h), Ansi.scan_reset]
    rfl
  have hcolours : ∀ action ∈ [Action.format colour, .log text, .format Ansi.reset],
      action.Colours := by
    simp [Action.Colours, Ansi.strip_colour hcolour]
  -- the line feed of the log stands in front of the reset
  rw [← inColour_line]
  exact between hcolours hcolour hpieces

/-- A logged text that switches a colour on and off again by itself is shown in that colour. -/
theorem logBetween {colour text : List Char} (hcolour : colour ∈ Ansi.colours)
    (h : Ansi.escape ∉ text) :
    Paints [.log (colour ++ text ++ Ansi.reset)] (inColour (some colour) text) := by
  have hpieces : [Action.log (colour ++ text ++ Ansi.reset)].flatMap (Action.pieces true) =
      Ansi.between colour text 1 := by
    -- the codes are scanned by themselves, and the text between them holds no escape character
    have hfront := Ansi.whole_of_strip_eq_nil (Ansi.strip_colour hcolour)
    have hback := Ansi.whole_of_strip_eq_nil Ansi.strip_reset
    have hfeed : scan ['\n'] = ['\n'].map .visible := Ansi.scan_of_not_mem (by decide)
    rw [List.flatMap_singleton, Action.pieces, List.append_assoc, List.append_assoc, hfront,
      Ansi.scan_append_of_not_mem h, hback, Ansi.scan_colour hcolour, Ansi.scan_reset, hfeed]
    rfl
  exact between (fun a ha => List.mem_singleton.1 ha ▸ trivial) hcolour hpieces

end Paints

/-! ## What is shown of a block -/

/-- The header lines of a request or of a response. -/
def paintedHeaders (mark : String) (headers : Headers) : List (Char × Colour) :=
  headers.entries.flatMap fun entry => inColour none (mark ++ entry.1 ++ ": " ++ entry.2).toList

/-- A body. -/
def paintedBody (mark text : String) : List (Char × Colour) :=
  inColour (some Ansi.cyan) (Text.markLines mark.toList text.toList)

/-- A request. -/
def paintedRequest (request : Request) : List (Char × Colour) :=
  inColour none ("> " ++ request.method.name ++ " " ++ request.url).toList ++
    (paintedHeaders "> " request.headers ++ request.body.elim [] (paintedBody "> "))

/-- The colour of good news and of bad news. -/
def judgement (good : Bool) : List Char :=
  if good then Ansi.green else Ansi.red

/-- The report on an assertion. -/
def paintedVerdict (verdict : Verdict) : List (Char × Colour) :=
  inColour (some (judgement verdict.holds)) (Transcript.verdictText verdict)

/-- All that a block shows on the standard output. -/
def Outcome.painted (outcome : Outcome) : List (Char × Colour) :=
  outcome.request.elim [] paintedRequest ++
    outcome.response.elim [] (fun response => paintedHeaders "< " response.headers) ++
    outcome.json.elim [] (fun json => paintedBody "< " json.pretty) ++
    outcome.verdicts.flatMap paintedVerdict

/-- The summary. -/
def paintedSummary (summary : Summary) : List (Char × Colour) :=
  inColour (some (judgement summary.isSuccess)) summary.text.toList

/-- The reports on the aborted ones of some blocks, the first of which has number `first`. -/
def paintedAborts (first : Nat) : List Outcome → List (Char × Colour)
  | [] => []
  | outcome :: outcomes =>
      (outcome.failure.elim [] fun failure =>
        inColour (some Ansi.red) (Transcript.abort first failure)) ++
        paintedAborts (first + 1) outcomes

/-! ### Texts without escape characters -/

theorem escapeFree_methodName (method : Method) : Ansi.EscapeFree method.name := by
  cases method <;> decide

theorem escapeFree_toString (n : Nat) : Ansi.EscapeFree (toString n) := by
  rw [Ansi.EscapeFree, Nat.toString_eq_repr, Nat.toList_repr]
  exact Number.escape_not_mem_digits n

theorem escapeFree_trimmed {s : String} (h : Ansi.EscapeFree s) :
    Ansi.EscapeFree (Text.trimmed s) := by
  rw [Text.trimmed, Ansi.escapeFree_ofList]
  exact fun hmem => h ((Text.trim_sublist _).subset hmem)

theorem escape_not_mem_markLines {mark text : String} (hmark : Ansi.EscapeFree mark)
    (htext : Ansi.EscapeFree text) : Ansi.escape ∉ Text.markLines mark.toList text.toList := by
  rw [Text.markLines, List.mem_append, not_or, List.mem_flatMap]
  refine ⟨hmark, ?_⟩
  rintro ⟨c, hc, hmem⟩
  split at hmem
  · rcases List.mem_cons.1 hmem with heq | hmem
    · exact htext (heq ▸ hc)
    · exact hmark hmem
  · exact htext (List.mem_singleton.1 hmem ▸ hc)

theorem escapeFree_header {mark : String} (hmark : Ansi.EscapeFree mark) {headers : Headers}
    (h : ∀ text ∈ namesAndValues headers.entries, Ansi.EscapeFree text) :
    ∀ entry ∈ headers.entries, Ansi.EscapeFree (mark ++ entry.1 ++ ": " ++ entry.2) := by
  intro entry hentry
  have hname := h entry.1 (Template.mem_namesAndValues.2 ⟨entry, hentry, .inl rfl⟩)
  have hvalue := h entry.2 (Template.mem_namesAndValues.2 ⟨entry, hentry, .inr rfl⟩)
  have hcolon : Ansi.EscapeFree ": " := by decide
  simp only [Ansi.escapeFree_append]
  exact ⟨⟨⟨hmark, hname⟩, hcolon⟩, hvalue⟩

theorem escape_not_mem_verdictText {verdict : Verdict} (h : Ansi.EscapeFree verdict.source) :
    Ansi.escape ∉ Transcript.verdictText verdict := by
  have hstart : Ansi.EscapeFree "test: [ " := by decide
  have hend : Ansi.EscapeFree " ] has " := by decide
  have hverdict : Ansi.EscapeFree (if verdict.holds then "passed" else "failed") := by
    split <;> decide
  have htext := escapeFree_trimmed h
  show Ansi.EscapeFree _
  simp only [Ansi.escapeFree_append]
  exact ⟨⟨⟨hstart, htext⟩, hend⟩, hverdict⟩

theorem escape_not_mem_abort (number : Nat) {failure : Failure}
    (h : Ansi.EscapeFree failure.message) : Ansi.escape ∉ Transcript.abort number failure := by
  have hstart : Ansi.EscapeFree "[ERROR] request #" := by decide
  have hmiddle : Ansi.EscapeFree " aborted: " := by decide
  show Ansi.EscapeFree _
  simp only [Ansi.escapeFree_append]
  exact ⟨⟨⟨hstart, escapeFree_toString number⟩, hmiddle⟩, h⟩

theorem escapeFree_summary (summary : Summary) : Ansi.EscapeFree summary.text := by
  have hof : Ansi.EscapeFree " of " := by decide
  have hpassed : Ansi.EscapeFree " tests passed" := by decide
  simp only [Summary.text, Ansi.escapeFree_append]
  exact ⟨⟨⟨escapeFree_toString _, hof⟩, escapeFree_toString _⟩, hpassed⟩

/-! ### Pieces of a transcript -/

theorem judgement_mem_colours (good : Bool) : judgement good ∈ Ansi.colours := by
  cases good <;> decide

theorem paints_headers {mark : String} (hmark : Ansi.EscapeFree mark) {headers : Headers}
    (h : ∀ text ∈ namesAndValues headers.entries, Ansi.EscapeFree text) :
    Paints (headers.entries.map (Transcript.header mark)) (paintedHeaders mark headers) := by
  rw [List.map_eq_flatMap]
  exact .flatMap fun entry hentry => .log (escapeFree_header hmark h entry hentry)

theorem paints_body {mark text : String} (hmark : Ansi.EscapeFree mark)
    (htext : Ansi.EscapeFree text) :
    Paints (Transcript.body mark text) (paintedBody mark text) :=
  .colouredLog (by decide) (escape_not_mem_markLines hmark htext)

theorem paints_request {request : Request} (h : request.EscapeFree) :
    Paints (Transcript.request request) (paintedRequest request) := by
  have hmark : Ansi.EscapeFree "> " := by decide
  have hline : Ansi.EscapeFree ("> " ++ request.method.name ++ " " ++ request.url) := by
    have hspace : Ansi.EscapeFree " " := by decide
    simp only [Ansi.escapeFree_append]
    exact ⟨⟨⟨hmark, escapeFree_methodName _⟩, hspace⟩, h.url⟩
  have hbody : Paints (request.body.elim [] (Transcript.body "> "))
      (request.body.elim [] (paintedBody "> ")) := by
    cases heq : request.body with
    | none => exact .nil
    | some body => exact paints_body hmark (h.body body heq)
  exact (Paints.log hline).append ((paints_headers hmark h.headers).append hbody)

theorem paints_verdict {verdict : Verdict} (h : Ansi.EscapeFree verdict.source) :
    Paints [.log (Transcript.verdict true verdict)] (paintedVerdict verdict) :=
  .logBetween (judgement_mem_colours verdict.holds) (escape_not_mem_verdictText h)

theorem paints_closing (summary : Summary) :
    Paints (Transcript.closing summary) (paintedSummary summary) := by
  have htext : Paints _ _ :=
    .colouredLog (judgement_mem_colours summary.isSuccess) (escapeFree_summary summary)
  have hflush : Paints [.flush] [] := .of_silent trivial rfl
  have hall := htext.append hflush
  rwa [List.append_nil] at hall

namespace Outcome

theorem EscapeFree.paints_onOut {outcome : Outcome} (h : outcome.EscapeFree) :
    Paints (outcome.onOut true) outcome.painted := by
  have hmark : Ansi.EscapeFree "< " := by decide
  have hrequest : Paints (outcome.request.elim [] Transcript.request)
      (outcome.request.elim [] paintedRequest) := by
    cases heq : outcome.request with
    | none => exact .nil
    | some request => exact paints_request (h.request request heq)
  have hresponse : Paints (outcome.response.elim [] Transcript.response)
      (outcome.response.elim [] fun response => paintedHeaders "< " response.headers) := by
    cases heq : outcome.response with
    | none => exact .nil
    | some response => exact paints_headers hmark (h.response response heq)
  have hjson : Paints (outcome.json.elim [] fun json => Transcript.body "< " json.pretty)
      (outcome.json.elim [] fun json => paintedBody "< " json.pretty) := by
    cases outcome.json with
    | none => exact .nil
    | some json => exact paints_body hmark json.escapeFree_pretty
  have hverdicts : Paints (outcome.verdicts.map fun v => .log (Transcript.verdict true v))
      (outcome.verdicts.flatMap paintedVerdict) := by
    rw [List.map_eq_flatMap]
    exact .flatMap fun verdict hverdict => paints_verdict (h.verdicts verdict hverdict)
  -- what an aborted block still holds is written by the reset, and shows nothing
  have hfailure : Paints (outcome.failure.elim [] fun _ => [.reset]) [] := by
    cases outcome.failure with
    | none => exact .nil
    | some failure => exact .of_silent trivial rfl
  have hfeeds : Paints [.insertLineFeeds 2] [] := .of_silent trivial rfl
  have hall := (((hrequest.append hresponse).append hjson).append hverdicts).append hfailure
    |>.append hfeeds
  rwa [List.append_nil, List.append_nil] at hall

theorem paints_onErrFrom (first : Nat) {outcomes : List Outcome}
    (h : ∀ outcome ∈ outcomes, outcome.EscapeFree) :
    Paints (onErrFrom first outcomes) (paintedAborts first outcomes) := by
  induction outcomes generalizing first with
  | nil => exact .nil
  | cons outcome outcomes ih =>
      rw [List.forall_mem_cons] at h
      refine .append ?_ (ih (first + 1) h.2)
      unfold onErr
      cases heq : outcome.failure with
      | none => exact .nil
      | some failure =>
          have hred : Ansi.red ∈ Ansi.colours := by decide
          have htext : Paints _ _ :=
            .colouredLog hred (escape_not_mem_abort first (h.1.failure failure heq))
          have hreset : Paints [.reset] [] := .of_silent trivial rfl
          have hall := htext.append hreset
          rwa [List.append_nil] at hall

end Outcome

/-! ## What is held at the end -/

namespace Console

theorem held_afterAll_closing {console : Console} (h : console.sink.TakesAll)
    (actions : List Action) (summary : Summary) :
    (console.afterAll (actions ++ Transcript.closing summary)).held = [] := by
  have hflush (before : List Action) : (console.afterAll (before ++ [.flush])).held = [] := by
    rw [afterAll_append]
    exact held_after (takesAll_afterAll h before) .flush
  have hsplit : actions ++ Transcript.closing summary =
      actions ++ (Transcript.closing summary).dropLast ++ [.flush] := by
    rw [List.append_assoc]
    rfl
  rw [hsplit, hflush]

/-- Each report on an aborted block ends in a reset, and nothing else is written to the error
output. -/
theorem held_afterAll_onErrFrom {console : Console} (h : console.sink.TakesAll)
    (hheld : console.held = []) (first : Nat) (outcomes : List Outcome) :
    (console.afterAll (Outcome.onErrFrom first outcomes)).held = [] := by
  induction outcomes generalizing console first with
  | nil => exact hheld
  | cons outcome outcomes ih =>
      have hnext : (console.afterAll (outcome.onErr first)).held = [] := by
        unfold Outcome.onErr
        cases outcome.failure with
        | none => exact hheld
        | some failure =>
            exact held_after (takesAll_afterAll h [.format Ansi.red,
              .log (Transcript.abort first failure), .format Ansi.reset]) .reset
      rw [Outcome.onErrFrom, afterAll_append]
      exact ih (takesAll_afterAll h _) hnext (first + 1)

end Console

/-! ## All blocks -/

/-- The characters of a text but for its line feeds, each in its colour. -/
def Ansi.shown (text : List Char) : List (Char × Colour) :=
  (paint none (scan text)).filter (·.1 != '\n')

/-- What actions paint is what they print on a console with colours that holds nothing, if they
leave it that way. -/
theorem Paints.printed {actions : List Action} {painted : List (Char × Colour)}
    (h : Paints actions painted) {console : Console} (htakes : console.sink.TakesAll)
    (hcolor : console.color = true) (hheld : console.held = [])
    (hheld' : (console.afterAll actions).held = []) :
    Paired (codesOf (scan (console.wrote (console.afterAll actions)))) ∧
      Ansi.shown (console.wrote (console.afterAll actions)) = painted := by
  have hopen : console.Open := ⟨htakes, hheld ▸ Ansi.strip_nil⟩
  -- nothing is held at either end, so the ink of the actions is the ink of what they print
  have hink := hopen.ink_printed h.colours
  rw [hheld, hheld', hcolor, Ansi.scan_nil] at hink
  have hprinted : ink (scan (console.printed actions)) =
      ink (actions.flatMap (Action.pieces true)) := (List.append_nil _).symm.trans hink
  rw [Console.wrote_afterAll htakes]
  constructor
  · rw [← Ansi.codesOf_ink, hprinted, Ansi.codesOf_ink]
    exact h.paired
  · rw [Ansi.shown, ← Ansi.paint_ink, hprinted]
    exact h.shown

namespace Runner

/-- **Colours are always closed.** Let a run come to some outcomes on outputs with colours that
never fail and hold nothing at first, and let no escape character come into it from its blocks, from
the values that are stored, from the responses or from the failures. Then the codes on either output
are pairs of a colour and a reset, all characters but line feeds are shown in the colours in which
outcomes and summary are painted, and neither output holds anything at the end. -/
theorem colours_are_closed {runner : Runner} (h : runner.TakesAll)
    (hcolor : runner.out.color = true ∧ runner.err.color = true)
    (hheld : runner.out.held = [] ∧ runner.err.held = []) {texts : List String}
    {outcomes : List Outcome} {store : Store} {client : Client}
    (hcourse : Course.Blocks runner.missing runner.jsonPolicy runner.store runner.client texts
      outcomes store client)
    (hfree : EscapeFreeRun runner texts outcomes) :
    let run := runOn runner texts
    Paired (codesOf (scan (runner.out.wrote run.2.out))) ∧
      Paired (codesOf (scan (runner.err.wrote run.2.err))) ∧
      Ansi.shown (runner.out.wrote run.2.out) = outcomes.flatMap Outcome.painted ++
        paintedSummary ⟨outcomes.countP Outcome.passed, outcomes.length⟩ ∧
      Ansi.shown (runner.err.wrote run.2.err) = paintedAborts 1 outcomes ∧
      run.2.out.held = [] ∧ run.2.err.held = [] := by
  intro run
  have hrun : run = _ := runOn_of_blocks h hcourse
  rw [hcolor.1] at hrun
  have houtcomes := hfree.outcome h hcourse
  -- each output is painted piece by piece, and ends with an action that writes what is held
  have hout : Paints (outcomes.flatMap (Outcome.onOut true) ++
      Transcript.closing ⟨outcomes.countP Outcome.passed, outcomes.length⟩) _ :=
    (Paints.flatMap fun outcome hmem => (houtcomes outcome hmem).paints_onOut).append
      (paints_closing _)
  have herr := Outcome.paints_onErrFrom 1 houtcomes
  have hout' := Console.held_afterAll_closing h.out (outcomes.flatMap (Outcome.onOut true))
    ⟨outcomes.countP Outcome.passed, outcomes.length⟩
  have herr' := Console.held_afterAll_onErrFrom h.err hheld.2 1 outcomes
  obtain ⟨hpairs, hshown⟩ := hout.printed h.out hcolor.1 hheld.1 hout'
  obtain ⟨hpairs', hshown'⟩ := herr.printed h.err hcolor.2 hheld.2 herr'
  rw [hrun]
  exact ⟨hpairs, hpairs', hshown, hshown', hout', herr'⟩

/-- A request that is aborted behind its body: the code that switches the colour of the body off is
still held then, and is written in front of anything else. -/
theorem colours_are_closed_behind_body :
    let request : Request := ⟨.post, "http://a", .empty, some "b"⟩
    let outcomes : List Outcome :=
      [{ request := some request, failure := some (.connection "refused") }]
    let runner := start {} (.scripted [.error (.connection "refused")] ⟨200, .empty, ""⟩)
      .unlimited .unlimited
    let texts := ["POST http://a\n\nb\n"]
    let run := runOn runner texts
    runner.TakesAll ∧ EscapeFreeRun runner texts outcomes ∧
      Paired (codesOf (scan (runner.out.wrote run.2.out))) ∧
      Paired (codesOf (scan (runner.err.wrote run.2.err))) ∧
      Ansi.shown (runner.out.wrote run.2.out) =
        inColour none "> POST http://a".toList ++ inColour (some Ansi.cyan) "> b".toList ++
          inColour (some Ansi.red) "0 of 1 tests passed".toList ∧
      Ansi.shown (runner.err.wrote run.2.err) =
        inColour (some Ansi.red) "[ERROR] request #1 aborted: Hyper error: refused".toList ∧
      run.2.out.held = [] ∧ run.2.err.held = [] := by
  intro request outcomes runner texts run
  have h : runner.TakesAll := ⟨Sink.takesAll_unlimited, Sink.takesAll_unlimited⟩
  have hready : Course.Prepared .lenient "POST http://a\n\nb\n" .empty
      ⟨.post, "http://a", .empty, some "b", []⟩ [] request :=
    ⟨by decide +kernel, .nil, by decide +kernel⟩
  have hcourse : Course.Blocks .lenient .contentType .empty runner.client texts outcomes .empty
      (runner.client.exchange request.withContentLength).2 :=
    .cons (.notAnswered hready rfl) (.nil _ _)
  have hfree : EscapeFreeRun runner texts outcomes := by
    refine ⟨by decide, ?_, ?_, ?_⟩
    · rw [List.forall_mem_singleton]
      rintro _ ⟨⟩
    · intro number hnumber
      obtain rfl : number = 0 := Nat.lt_one_iff.1 hnumber
      rw [List.take_zero, (runOn_leaves h (.nil _ _)).1]
      rintro key s ⟨⟩
    · rw [List.forall_mem_singleton]
      rintro _ ⟨⟩
      decide
  obtain ⟨hout, herr, hshown, hshown', hheld⟩ :=
    colours_are_closed h ⟨rfl, rfl⟩ ⟨rfl, rfl⟩ hcourse hfree
  exact ⟨h, hfree, hout, herr, hshown.trans (by decide +kernel), hshown'.trans (by decide +kernel),
    hheld⟩

end Runner

end HttpDoctest
