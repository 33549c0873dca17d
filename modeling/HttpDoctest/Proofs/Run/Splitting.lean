import HttpDoctest.Proofs.Run.Transcript

set_option autoImplicit false

/-! # Splitting a run

The course of blocks is the course of the first of them and then, from the store and the client
that these leave, the course of the others (`Course.Blocks.append`). It does not depend on the
outputs, so the summary that a run prints between the two parts, and the codes and line feeds that
it leaves there, reach no verdict, no request and no value (`runOn_append`).
-/

namespace HttpDoctest

/-- Two summaries added up. -/
def Summary.add (summary summary' : Summary) : Summary :=
  ⟨summary.successes + summary'.successes, summary.total + summary'.total⟩

namespace Course

/-- Blocks that follow others take their course from what these leave. -/
theorem Blocks.append {mode : MissingValue} {policy : JsonPolicy} {store mid store' : Store}
    {client between client' : Client} {texts texts' : List String}
    {outcomes outcomes' : List Outcome}
    (h : Blocks mode policy store client texts outcomes mid between)
    (h' : Blocks mode policy mid between texts' outcomes' store' client') :
    Blocks mode policy store client (texts ++ texts') (outcomes ++ outcomes') store' client' := by
  induction h with
  | nil => exact h'
  | cons hblock _ ih => exact .cons hblock (ih h')

end Course

namespace Runner

/-- **Splitting a run changes nothing but the reports.** Where no output fails, a run of blocks
and a run of further blocks on the runner that it leaves give summaries that add up to the summary
of one run of them all. They leave the same store, and the same client: one that received the same
requests in the same order, and used up the same answers. -/
theorem runOn_append {runner : Runner} (h : runner.TakesAll) (texts texts' : List String) :
    let first := runOn runner texts
    let second := runOn first.2 texts'
    let whole := runOn runner (texts ++ texts')
    ∃ summary summary', first.1 = .ok summary ∧ second.1 = .ok summary' ∧
      whole.1 = .ok (summary.add summary') ∧
      whole.2.client = second.2.client ∧
      whole.2.store = second.2.store := by
  intro first second whole
  obtain ⟨outcomes, mid, between, hcourse⟩ :=
    Course.exists_blocks runner.missing runner.jsonPolicy runner.store runner.client texts
  obtain ⟨outcomes', store, client, hcourse'⟩ :=
    Course.exists_blocks runner.missing runner.jsonPolicy mid between texts'
  have hfirst := runOn_of_blocks h hcourse
  have hwhole := runOn_of_blocks h (hcourse.append hcourse')
  -- the outputs of the second run are written to already, which its course does not depend on
  have hsecond (out err : List Console.Action) :=
    runOn_of_blocks (h.advance mid between out err) hcourse'
  refine ⟨⟨outcomes.countP Outcome.passed, outcomes.length⟩,
    ⟨outcomes'.countP Outcome.passed, outcomes'.length⟩, ?_⟩
  simp only [first, second, whole, hfirst, hwhole, hsecond]
  refine ⟨trivial, trivial, ?_, rfl, rfl⟩
  rw [List.countP_append, List.length_append]
  rfl

/-- A run split in front of a block that is no request: summaries, requests and answers go on
behind the split. -/
theorem runOn_append_of_requests_and_prose :
    let runner := start { seed := .ofList [("host", .string "a")] }
      (.scripted [] ⟨200, .empty, ""⟩) .unlimited .unlimited
    let texts := ["GET http://{{host}}\n"]
    let texts' := ["no request", "GET http://{{host}}/b\n"]
    let whole := runOn runner (texts ++ texts')
    runner.TakesAll ∧ whole.1 = .ok ⟨2, 3⟩ ∧
      whole.2.client.received.map (·.url) = ["http://a", "http://a/b"] ∧
      whole.2.client = (runOn (runOn runner texts).2 texts').2.client ∧
      whole.2.store = (runOn (runOn runner texts).2 texts').2.store := by
  intro runner texts texts' whole
  have h : runner.TakesAll := ⟨Sink.takesAll_unlimited, Sink.takesAll_unlimited⟩
  obtain ⟨summary, summary', hfirst, hsecond, hwhole, hclient, hstore⟩ :=
    runOn_append h texts texts'
  have hsummary : (runOn runner texts).1.toOption = some ⟨1, 1⟩ := by decide +kernel
  have hsummary' : (runOn (runOn runner texts).2 texts').1.toOption = some ⟨1, 2⟩ := by
    decide +kernel
  rw [hfirst] at hsummary
  rw [hsecond] at hsummary'
  cases hsummary
  cases hsummary'
  exact ⟨h, hwhole, by decide +kernel, hclient, hstore⟩

end Runner

end HttpDoctest
