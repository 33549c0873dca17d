import HttpDoctest.Proofs.Request.Characters
import HttpDoctest.Proofs.Run.Requests

set_option autoImplicit false

/-! # Escape characters in a run

What a run shows of a block is taken from the block, from the values that are stored when the block
has its turn, from the response, and from the failure that aborts it. Where none of these holds an
escape character, nothing that is shown does (`EscapeFreeRun.outcome`). The body of a response may
hold some: it is shown as JSON text only, and there they are written by their code points.
-/

namespace HttpDoctest

open Template (namesAndValues)

/-- Whether no text of a request holds an escape character. -/
structure Request.EscapeFree (request : Request) : Prop where
  url : Ansi.EscapeFree request.url
  headers : ∀ text ∈ namesAndValues request.headers.entries, Ansi.EscapeFree text
  body : ∀ body ∈ request.body, Ansi.EscapeFree body

/-- Whether no header of a response holds an escape character. -/
def Response.EscapeFree (response : Response) : Prop :=
  ∀ text ∈ namesAndValues response.headers.entries, Ansi.EscapeFree text

/-- Whether nothing of what is shown of a block holds an escape character. -/
structure Outcome.EscapeFree (outcome : Outcome) : Prop where
  request : ∀ request ∈ outcome.request, request.EscapeFree
  response : ∀ response ∈ outcome.response, response.EscapeFree
  verdicts : ∀ verdict ∈ outcome.verdicts, Ansi.EscapeFree verdict.source
  failure : ∀ failure ∈ outcome.failure, Ansi.EscapeFree failure.message

/-! ## One block -/

theorem RequestBlock.escapeFree_of_resolve {mode : MissingValue} {store : Store}
    {block : RequestBlock} {request : Request} (h : block.resolve mode store = .ok request)
    (hblock : ∀ text ∈ block.texts, Ansi.EscapeFree text) (hstore : store.EscapeFree) :
    request.EscapeFree := by
  obtain ⟨-, hurl, hheaders, hbody⟩ := resolve_eq_ok_iff.1 h
  obtain ⟨hurl', hheaders', hbody', -⟩ := forall_mem_texts.1 hblock
  exact ⟨Template.escapeFree_of_interpolate hstore hurl' hurl,
    Template.escapeFree_of_interpolateHeaders hstore hheaders' hheaders,
    Template.escapeFree_of_interpolate? hstore hbody' hbody⟩

namespace Course

/-- A verdict is on one of the assertions. -/
theorem Trailers.source_mem {context : Context} {store store' : Store} {steps : List Step}
    {verdicts : List Verdict} {error : Option ExprError}
    (h : Trailers context store steps store' verdicts error) :
    ∀ verdict ∈ verdicts, verdict.source ∈ steps.filterMap Step.assertion? := by
  induction h with
  | finish => exact List.forall_mem_nil _
  | check _ _ ih =>
      exact List.forall_mem_cons.2
        ⟨List.mem_cons_self, fun verdict hv => List.mem_cons_of_mem _ (ih verdict hv)⟩
  | checkFails => exact List.forall_mem_nil _
  | perform _ _ ih => exact ih
  | performFails => exact List.forall_mem_nil _

section Prepared

variable {mode : MissingValue} {text : String} {store : Store} {block : RequestBlock}
  {steps : List Step} {request : Request} (h : Prepared mode text store block steps request)
  (htext : Ansi.EscapeFree text)
include h htext

theorem Prepared.escapeFree (hstore : store.EscapeFree) : request.EscapeFree :=
  block.escapeFree_of_resolve h.filled (RequestBlock.escapeFree_of_ofString h.read htext) hstore

theorem Prepared.escapeFree_of_mem_assertions {source : String}
    (hsource : source ∈ steps.filterMap Step.assertion?) : Ansi.EscapeFree source := by
  rw [h.assertions, block.assertions_eq_filterMap] at hsource
  obtain ⟨trailer, htrailer, heq⟩ := List.mem_filterMap.1 hsource
  have hsources := (RequestBlock.forall_mem_texts.1
    (RequestBlock.escapeFree_of_ofString h.read htext)).2.2.2
  cases trailer with
  | assertion source =>
      cases heq
      exact hsources _ htrailer
  | sideEffect => cases heq

end Prepared

variable {mode : MissingValue} {policy : JsonPolicy}

theorem Block.escapeFree {text : String} {store store' : Store} {client client' : Client}
    {outcome : Outcome} (h : Block mode policy text store client outcome store' client')
    (htext : Ansi.EscapeFree text) (hstore : store.EscapeFree)
    (hresponse : ∀ response ∈ outcome.response, response.EscapeFree)
    (hfailure : ∀ failure ∈ outcome.failure, Ansi.EscapeFree failure.message) :
    outcome.EscapeFree := by
  have hrequest {block : RequestBlock} {steps : List Step} {request : Request}
      (hready : Prepared mode text store block steps request) :
      ∀ r ∈ some request, r.EscapeFree := by
    rintro _ ⟨⟩
    exact hready.escapeFree htext hstore
  cases h with
  | noRequest => exact ⟨nofun, hresponse, List.forall_mem_nil _, hfailure⟩
  | notCompiled => exact ⟨nofun, hresponse, List.forall_mem_nil _, hfailure⟩
  | notFilled => exact ⟨nofun, hresponse, List.forall_mem_nil _, hfailure⟩
  | notAnswered hready => exact ⟨hrequest hready, hresponse, List.forall_mem_nil _, hfailure⟩
  | notDecoded hready => exact ⟨hrequest hready, hresponse, List.forall_mem_nil _, hfailure⟩
  | carriedOut hready _ _ htrailers =>
      refine ⟨hrequest hready, hresponse, fun verdict hverdict => ?_, hfailure⟩
      exact hready.escapeFree_of_mem_assertions htext (htrailers.source_mem verdict hverdict)

end Course

/-! ## All blocks -/

/-- Whether no escape character comes into a run with the given outcomes: none is in its blocks, in
the headers of the responses, in what is stored when a block has its turn, or in what is said about
the failures. -/
structure EscapeFreeRun (runner : Runner) (texts : List String) (outcomes : List Outcome) :
    Prop where
  blocks : ∀ text ∈ texts, Ansi.EscapeFree text
  responses : ∀ outcome ∈ outcomes, ∀ response ∈ outcome.response, response.EscapeFree
  stored : ∀ number < texts.length, (runner.runOn (texts.take number)).2.store.EscapeFree
  failures : ∀ outcome ∈ outcomes, ∀ failure ∈ outcome.failure, Ansi.EscapeFree failure.message

theorem EscapeFreeRun.outcome {runner : Runner} (h : runner.TakesAll) {texts : List String}
    {outcomes : List Outcome} {store : Store} {client : Client}
    (hcourse : Course.Blocks runner.missing runner.jsonPolicy runner.store runner.client texts
      outcomes store client)
    (hfree : EscapeFreeRun runner texts outcomes) : ∀ outcome ∈ outcomes, outcome.EscapeFree := by
  intro outcome hmem
  obtain ⟨number, hnumber', rfl⟩ := List.mem_iff_getElem.1 hmem
  have hnumber : number < texts.length := hcourse.length_eq ▸ hnumber'
  obtain ⟨before, mid, after, next, hfront, hblock, -⟩ := hcourse.block hnumber hnumber'
  -- the store that the block finds is the one that a run of the blocks in front of it leaves
  have hstore : before.EscapeFree := by
    rw [← (Runner.runOn_leaves h hfront).1]
    exact hfree.stored number hnumber
  exact hblock.escapeFree (hfree.blocks _ (List.getElem_mem hnumber)) hstore
    (hfree.responses _ hmem) (hfree.failures _ hmem)

end HttpDoctest
