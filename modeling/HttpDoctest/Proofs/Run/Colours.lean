import HttpDoctest.Proofs.Console.Appearance
import HttpDoctest.Proofs.Run.Verdicts

set_option autoImplicit false

/-! # Colour is cosmetic

Colours reach the outputs of a run only: what becomes of its blocks does not depend on them, and
with or without colours the two transcripts look alike action by action. So two runs that are set up
alike but for their colours end alike, and the same is seen of their outputs (`colour_is_cosmetic`),
also where blocks, responses or stored values hold escape characters themselves.
-/

namespace HttpDoctest

open Console (Action)

/-! ## Transcripts with and without colours -/

namespace Transcript

/-- What a report on an assertion says. -/
def verdictText (verdict : Verdict) : List Char :=
  ("test: [ " ++ Text.trimmed verdict.source ++ " ] has " ++
    if verdict.holds then "passed" else "failed").toList

/-- A report ends in a letter that no sequence goes over, so no escape character in the source of
an assertion comes together with the code behind the report. -/
theorem whole_verdictText (verdict : Verdict) : Ansi.Whole (verdictText verdict) := by
  obtain ⟨front, hfront⟩ : ∃ front, verdictText verdict = front ++ ['d'] := by
    unfold verdictText
    rw [String.toList_append]
    cases verdict.holds with
    | true => exact ⟨_ ++ "passe".toList, (List.append_assoc _ "passe".toList ['d']).symm⟩
    | false => exact ⟨_ ++ "faile".toList, (List.append_assoc _ "faile".toList ['d']).symm⟩
  rw [hfront]
  exact Ansi.whole_append_breaksOff (by decide) front

theorem strip_verdict (color : Bool) (v : Verdict) :
    Ansi.strip (verdict color v ++ ['\n']) = Ansi.strip (verdictText v ++ ['\n']) := by
  have hfront : Ansi.strip (code color (if v.holds then Ansi.green else Ansi.red)) = [] :=
    strip_code (by split <;> simp)
  have hback : Ansi.strip (code color Ansi.reset) = [] := strip_code Ansi.strip_reset
  calc Ansi.strip (verdict color v ++ ['\n'])
      = Ansi.strip (code color (if v.holds then Ansi.green else Ansi.red) ++
          (verdictText v ++ (code color Ansi.reset ++ ['\n']))) := by
        simp only [verdict, verdictText, List.append_assoc]
    _ = Ansi.strip (verdictText v) ++ Ansi.strip ['\n'] := by
        rw [Ansi.strip_append_of_strip_eq_nil hfront, (whole_verdictText v).strip_append,
          Ansi.strip_append_of_strip_eq_nil hback]
    _ = Ansi.strip (verdictText v ++ ['\n']) := ((whole_verdictText v).strip_append _).symm

theorem alike_verdict (color color' : Bool) (v : Verdict) :
    Action.Alike (.log (verdict color v)) (.log (verdict color' v)) :=
  Console.Action.alike_log ((strip_verdict color v).trans (strip_verdict color' v).symm)

end Transcript

theorem Console.Action.forall₂_alike_refl (actions : List Action) :
    List.Forall₂ Action.Alike actions actions :=
  List.forall₂_same.2 fun action _ => .refl action

theorem Outcome.alike_onOut (color color' : Bool) (outcome : Outcome) :
    List.Forall₂ Action.Alike (outcome.onOut color) (outcome.onOut color') := by
  have hverdicts : List.Forall₂ Action.Alike
      (outcome.verdicts.map fun v => .log (Transcript.verdict color v))
      (outcome.verdicts.map fun v => .log (Transcript.verdict color' v)) := by
    rw [List.forall₂_map_left_iff, List.forall₂_map_right_iff]
    exact List.forall₂_same.2 fun v _ => Transcript.alike_verdict color color' v
  have hrest := Console.Action.forall₂_alike_refl
  exact List.rel_append (List.rel_append (List.rel_append (hrest _) hverdicts) (hrest _)) (hrest _)

theorem Outcome.alike_flatMap_onOut (color color' : Bool) (outcomes : List Outcome) :
    List.Forall₂ Action.Alike (outcomes.flatMap (Outcome.onOut color))
      (outcomes.flatMap (Outcome.onOut color')) := by
  induction outcomes with
  | nil => exact .nil
  | cons outcome outcomes ih => exact List.rel_append (outcome.alike_onOut color color') ih

/-- A transcript holds back nothing but codes. -/
theorem Transcript.colours_onOut (color : Bool) (outcomes : List Outcome) (summary : Summary) :
    ∀ action ∈ outcomes.flatMap (Outcome.onOut color) ++ closing summary, action.Colours :=
  ((Reports.flatMap (reports_onOut color) outcomes).append
    (reports_closing "est: [ ".toList (by decide) summary)).colours

/-! ## Two runs -/

/-- Whether two runners are set up alike, but for the colours of their outputs. -/
structure SameButColour (runner runner' : Runner) : Prop where
  missing : runner.missing = runner'.missing
  jsonPolicy : runner.jsonPolicy = runner'.jsonPolicy
  client : runner.client = runner'.client
  store : runner.store = runner'.store
  out : runner.out.LookAlike runner'.out
  err : runner.err.LookAlike runner'.err

namespace Runner

/-- Settings that differ in their colour only make runners that differ in nothing else. -/
theorem sameButColour_start (settings : Settings) (color : Bool) (client : Client)
    {out err : Sink} (hout : out.TakesAll) (herr : err.TakesAll) :
    SameButColour (start settings client out err)
      (start { settings with color := color } client out err) where
  missing := rfl
  jsonPolicy := rfl
  client := rfl
  store := rfl
  out := ⟨Console.open_ofSink hout _, Console.open_ofSink hout _, rfl⟩
  err := ⟨Console.open_ofSink herr _, Console.open_ofSink herr _, rfl⟩

/-- **Colour is cosmetic.** Where no output fails, two runners that are set up alike but for their
colours come to the same result, send the same requests and leave the same store. Without their
colour sequences the texts that they write are the same, and they are set up alike for a further
run. -/
theorem colour_is_cosmetic {runner runner' : Runner} (h : SameButColour runner runner')
    (texts : List String) :
    let run := runOn runner texts
    let run' := runOn runner' texts
    run.1 = run'.1 ∧ run.2.client.received = run'.2.client.received ∧
      run.2.store = run'.2.store ∧
      Ansi.strip (runner.out.wrote run.2.out) = Ansi.strip (runner'.out.wrote run'.2.out) ∧
      Ansi.strip (runner.err.wrote run.2.err) = Ansi.strip (runner'.err.wrote run'.2.err) ∧
      SameButColour run.2 run'.2 := by
  intro run run'
  obtain ⟨outcomes, store, client, hcourse⟩ :=
    Course.exists_blocks runner.missing runner.jsonPolicy runner.store runner.client texts
  -- the course of the blocks is the same, since it does not depend on the outputs
  have hcourse' := hcourse
  rw [h.missing, h.jsonPolicy, h.store, h.client] at hcourse'
  have hrun : run = _ := runOn_of_blocks ⟨h.out.first.takesAll, h.err.first.takesAll⟩ hcourse
  have hrun' : run' = _ :=
    runOn_of_blocks ⟨h.out.second.takesAll, h.err.second.takesAll⟩ hcourse'
  obtain ⟨hout, hout'⟩ := h.out.afterAll
    (List.rel_append (Outcome.alike_flatMap_onOut runner.out.color runner'.out.color outcomes)
      (Action.forall₂_alike_refl
        (Transcript.closing ⟨outcomes.countP Outcome.passed, outcomes.length⟩)))
    (Transcript.colours_onOut _ _ _) (Transcript.colours_onOut _ _ _)
  have hcolours := (Transcript.reports_onErrFrom 1 outcomes).colours
  obtain ⟨herr, herr'⟩ :=
    h.err.afterAll (Action.forall₂_alike_refl (Outcome.onErrFrom 1 outcomes)) hcolours hcolours
  rw [hrun, hrun']
  exact ⟨rfl, rfl, rfl, hout, herr, h.missing, h.jsonPolicy, rfl, rfl, hout', herr'⟩

/-- Fragments of colour sequences in a URL, in a body and in a header: both runs write them, and the
codes that the coloured run writes in addition complete none of them. -/
theorem colour_is_cosmetic_among_fragments :
    let client := Client.scripted [] ⟨200, .ofList [("A", "\x1b[3")], ""⟩
    let texts := ["GET http://a/\x1b[3\n\nb\x1b[\n", "no request"]
    let runner := start { color := false } client .unlimited .unlimited
    let runner' := start { color := true } client .unlimited .unlimited
    let run := runOn runner texts
    let run' := runOn runner' texts
    SameButColour runner runner' ∧ run'.1 = run.1 ∧
      Ansi.strip (runner.out.wrote run.2.out) =
        "> GET http://a/\x1b[3\n> b\x1b[\n< A: \x1b[3\n\n\n\n1 of 2 tests passed\n".toList ∧
      Ansi.strip (runner'.out.wrote run'.2.out) = Ansi.strip (runner.out.wrote run.2.out) ∧
      Ansi.strip (runner'.err.wrote run'.2.err) = Ansi.strip (runner.err.wrote run.2.err) := by
  intro client texts runner runner' run run'
  have halike : SameButColour runner runner' := sameButColour_start { color := false } true client
    Sink.takesAll_unlimited Sink.takesAll_unlimited
  obtain ⟨hresult, -, -, hout, herr, -⟩ := colour_is_cosmetic halike texts
  exact ⟨halike, hresult.symm, by decide +kernel, hout.symm, herr.symm⟩

end Runner

end HttpDoctest
