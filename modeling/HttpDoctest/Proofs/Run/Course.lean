import HttpDoctest.Runner
import Mathlib.Data.List.Forall2

set_option autoImplicit false

/-! # The course of a run

What happens in a run, told without its consoles: what becomes of each block, and which store
and client it leaves to the next one. A block may end at seven places, and each has a rule of
its own: it is no request, a trailer does not compile, a placeholder has no value, the client
gives no response, the body of the response is not JSON, an assertion cannot be evaluated, a
side effect fails. Whatever becomes of a block, the next one takes its course.
-/

namespace HttpDoctest

/-- What was found about an assertion. -/
structure Verdict where
  source : String
  holds : Bool
deriving DecidableEq, Repr

/-- What became of a block, as far as it came. -/
structure Outcome where
  /-- The request, if its placeholders were filled. -/
  request : Option Request := none
  /-- The response, if there was one. -/
  response : Option Response := none
  /-- The JSON value of the body of the response, if it was read as one. -/
  json : Option Json := none
  /-- What was found about the assertions that were reached, in order. -/
  verdicts : List Verdict := []
  /-- Why the block was aborted, if it was. -/
  failure : Option Failure := none

/-- Whether a block passed: it was not aborted, and all its assertions hold. -/
def Outcome.passed (outcome : Outcome) : Bool :=
  outcome.failure.isNone && outcome.verdicts.all (·.holds)

/-- The source of a step that is an assertion. -/
def Step.assertion? : Step → Option String
  | .check assertion => some assertion.source
  | .perform _ => none

namespace Course

/-- The course of trailers: from `store`, `steps` leave another store, verdicts, and the error at
the step where they were given up, if there is one. Each step sees the store that the steps in
front of it left. -/
inductive Trailers (context : Context) :
    Store → List Step → Store → List Verdict → Option ExprError → Prop where
  /-- No step is left. -/
  | finish (store : Store) : Trailers context store [] store [] none
  /-- An assertion has a value, which is truthy or not. The steps behind it follow in both
  cases. -/
  | check {store store' : Store} {assertion : Assertion} {value : Value} {steps : List Step}
      {verdicts : List Verdict} {error : Option ExprError} :
      assertion.expression.eval ⟨context, store⟩ = .ok value →
      Trailers context store steps store' verdicts error →
      Trailers context store (.check assertion :: steps) store'
        (⟨assertion.source, value.isTruthy⟩ :: verdicts) error
  /-- An assertion has no value. -/
  | checkFails {store : Store} {assertion : Assertion} {steps : List Step} {error : ExprError} :
      assertion.expression.eval ⟨context, store⟩ = .error error →
      Trailers context store (.check assertion :: steps) store [] (some error)
  /-- A side effect changes the store for the steps behind it. -/
  | perform {store between store' : Store} {effect : SideEffect} {steps : List Step}
      {verdicts : List Verdict} {error : Option ExprError} :
      effect.statements.foldlM (Statement.run context) store = .ok between →
      Trailers context between steps store' verdicts error →
      Trailers context store (.perform effect :: steps) store' verdicts error
  /-- A statement of a side effect fails. What the statements in front of it assigned stays. -/
  | performFails {store store' : Store} {effect : SideEffect} {done undone : List Statement}
      {failing : Statement} {steps : List Step} {error : ExprError} :
      effect.statements = done ++ failing :: undone →
      done.foldlM (Statement.run context) store = .ok store' →
      failing.run context store' = .error error →
      Trailers context store (.perform effect :: steps) store' [] (some error)

/-- The step that a trailer is compiled to. -/
inductive Compiles : Trailer → Step → Prop where
  | assertion {source : String} {expression : Expr} :
      Expr.ofSource source = .ok expression →
      Compiles (.assertion source) (.check ⟨source, expression⟩)
  | sideEffect {source : String} {statements : List Statement} :
      Statement.listOfSource source = .ok statements →
      Compiles (.sideEffect source) (.perform ⟨source, statements⟩)

/-- The error for which a trailer is not compiled. -/
inductive FailsToCompile : Trailer → ExprError → Prop where
  | assertion {source : String} {error : ExprError} :
      Expr.ofSource source = .error error → FailsToCompile (.assertion source) error
  | sideEffect {source : String} {error : ExprError} :
      Statement.listOfSource source = .error error → FailsToCompile (.sideEffect source) error

/-- What a block has come to when it is ready to be sent: it is a request, its trailers are
compiled, and its placeholders are filled. -/
structure Prepared (mode : MissingValue) (text : String) (store : Store) (block : RequestBlock)
    (steps : List Step) (request : Request) : Prop where
  read : RequestBlock.ofString text = .ok block
  compiled : List.Forall₂ Compiles block.trailers steps
  filled : block.resolve mode store = .ok request

/-- What the trailers of a block see of a response. -/
def contextOf (response : Response) (json : Option Json) : Context :=
  ⟨response.status, (json.map Value.ofJson).getD .undefined, response.body, response.headers⟩

/-- The course of a block: what becomes of it, and the store and the client that it leaves. -/
inductive Block (mode : MissingValue) (policy : JsonPolicy) (text : String) (store : Store)
    (client : Client) : Outcome → Store → Client → Prop where
  /-- The block is no request. -/
  | noRequest {error : BlockError} :
      RequestBlock.ofString text = .error error →
      Block mode policy text store client { failure := some (.block error) } store client
  /-- A trailer does not compile, and those in front of it do. -/
  | notCompiled {block : RequestBlock} {front behind : List Trailer} {failing : Trailer}
      {error : ExprError} :
      RequestBlock.ofString text = .ok block →
      block.trailers = front ++ failing :: behind →
      (∀ trailer ∈ front, ∃ step, Compiles trailer step) →
      FailsToCompile failing error →
      Block mode policy text store client { failure := some (.expression error) } store client
  /-- A placeholder has no value. -/
  | notFilled {block : RequestBlock} {steps : List Step} {missing : UndefinedPlaceholder} :
      RequestBlock.ofString text = .ok block →
      List.Forall₂ Compiles block.trailers steps →
      block.resolve mode store = .error missing →
      Block mode policy text store client
        { failure := some (.undefinedPlaceholder missing.key) } store client
  /-- The client gives no response. -/
  | notAnswered {block : RequestBlock} {steps : List Step} {request : Request}
      {failure : Failure} {client' : Client} :
      Prepared mode text store block steps request →
      client.exchange request.withContentLength = (.error failure, client') →
      Block mode policy text store client
        { request := some request, failure := some failure } store client'
  /-- The body of the response is to be read as JSON and is not. -/
  | notDecoded {block : RequestBlock} {steps : List Step} {request : Request}
      {response : Response} {client' : Client} {error : Json.ReadError} :
      Prepared mode text store block steps request →
      client.exchange request.withContentLength = (.ok response, client') →
      policy.decode response = .error error →
      Block mode policy text store client
        { request := some request, response := some response, failure := some (.json error) }
        store client'
  /-- The trailers take their course. -/
  | carriedOut {block : RequestBlock} {steps : List Step} {request : Request}
      {response : Response} {client' : Client} {json : Option Json} {store' : Store}
      {verdicts : List Verdict} {error : Option ExprError} :
      Prepared mode text store block steps request →
      client.exchange request.withContentLength = (.ok response, client') →
      policy.decode response = .ok json →
      Trailers (contextOf response json) store steps store' verdicts error →
      Block mode policy text store client
        ⟨some request, some response, json, verdicts, error.map .expression⟩ store' client'

/-- The course of blocks, each of which gets the store and the client that the one in front of
it left. -/
inductive Blocks (mode : MissingValue) (policy : JsonPolicy) :
    Store → Client → List String → List Outcome → Store → Client → Prop where
  | nil (store : Store) (client : Client) : Blocks mode policy store client [] [] store client
  | cons {store between store' : Store} {client mid client' : Client} {text : String}
      {texts : List String} {outcome : Outcome} {outcomes : List Outcome} :
      Block mode policy text store client outcome between mid →
      Blocks mode policy between mid texts outcomes store' client' →
      Blocks mode policy store client (text :: texts) (outcome :: outcomes) store' client'

/-! ## Compiling -/

/-- A trailer compiles or fails to. -/
theorem exists_step (trailer : Trailer) :
    (∃ step, Compiles trailer step) ∨ ∃ error, FailsToCompile trailer error := by
  cases trailer with
  | assertion source =>
      cases hread : Expr.ofSource source with
      | ok expression => exact .inl ⟨_, .assertion hread⟩
      | error error => exact .inr ⟨error, .assertion hread⟩
  | sideEffect source =>
      cases hread : Statement.listOfSource source with
      | ok statements => exact .inl ⟨_, .sideEffect hread⟩
      | error error => exact .inr ⟨error, .sideEffect hread⟩

theorem Compiles.compile_eq {trailer : Trailer} {step : Step} (h : Compiles trailer step) :
    trailer.compile = .ok step := by
  cases h with
  | assertion hread =>
      rw [Trailer.compile, Assertion.compile, hread]
      rfl
  | sideEffect hread =>
      rw [Trailer.compile, SideEffect.compile, hread]
      rfl

theorem FailsToCompile.compile_eq {trailer : Trailer} {error : ExprError}
    (h : FailsToCompile trailer error) : trailer.compile = .error error := by
  cases h with
  | assertion hread =>
      rw [Trailer.compile, Assertion.compile, hread]
      rfl
  | sideEffect hread =>
      rw [Trailer.compile, SideEffect.compile, hread]
      rfl

/-- All trailers compile, or some do up to the first that fails to. -/
theorem exists_steps (trailers : List Trailer) :
    (∃ steps, List.Forall₂ Compiles trailers steps) ∨
      ∃ front failing behind error, trailers = front ++ failing :: behind ∧
        (∀ trailer ∈ front, ∃ step, Compiles trailer step) ∧ FailsToCompile failing error := by
  induction trailers with
  | nil => exact .inl ⟨[], .nil⟩
  | cons trailer trailers ih =>
      rcases exists_step trailer with ⟨step, hstep⟩ | ⟨error, hfails⟩
      · rcases ih with ⟨steps, hsteps⟩ | ⟨front, failing, behind, error, rfl, hfront, hfails⟩
        · exact .inl ⟨step :: steps, .cons hstep hsteps⟩
        · exact .inr ⟨trailer :: front, failing, behind, error, rfl,
            List.forall_mem_cons.2 ⟨⟨step, hstep⟩, hfront⟩, hfails⟩
      · exact .inr ⟨[], trailer, trailers, error, rfl, List.forall_mem_nil _, hfails⟩

theorem mapM_compile_of_compiled {trailers : List Trailer} {steps : List Step}
    (h : List.Forall₂ Compiles trailers steps) :
    trailers.mapM Trailer.compile = .ok steps := by
  induction h with
  | nil => rfl
  | cons hstep _ ih =>
      rw [List.mapM_cons, hstep.compile_eq, ih]
      rfl

theorem mapM_compile_of_failed {front behind : List Trailer} {failing : Trailer}
    {error : ExprError} (hfront : ∀ trailer ∈ front, ∃ step, Compiles trailer step)
    (hfails : FailsToCompile failing error) :
    (front ++ failing :: behind).mapM Trailer.compile = .error error := by
  induction front with
  | nil =>
      rw [List.nil_append, List.mapM_cons, hfails.compile_eq]
      rfl
  | cons trailer front ih =>
      obtain ⟨⟨step, hstep⟩, hrest⟩ := List.forall_mem_cons.1 hfront
      rw [List.cons_append, List.mapM_cons, hstep.compile_eq, ih hrest]
      rfl

/-! ## Statements -/

section Statements

variable {context : Context} {store store' : Store}

theorem runAll_of_completed {statements : List Statement}
    (h : statements.foldlM (Statement.run context) store = .ok store') :
    Statement.runAll context store statements = (store', .ok ()) := by
  induction statements generalizing store with
  | nil =>
      cases h
      rfl
  | cons statement statements ih =>
      rw [List.foldlM_cons] at h
      rw [Statement.runAll]
      cases hrun : statement.run context store with
      | error error =>
          rw [hrun] at h
          cases h
      | ok between =>
          rw [hrun] at h
          exact ih h

theorem runAll_of_failed {done undone : List Statement} {failing : Statement} {error : ExprError}
    (hdone : done.foldlM (Statement.run context) store = .ok store')
    (hfailing : failing.run context store' = .error error) :
    Statement.runAll context store (done ++ failing :: undone) = (store', .error error) := by
  induction done generalizing store with
  | nil =>
      cases hdone
      rw [List.nil_append, Statement.runAll, hfailing]
  | cons statement done ih =>
      rw [List.foldlM_cons] at hdone
      rw [List.cons_append, Statement.runAll]
      cases hrun : statement.run context store with
      | error error =>
          rw [hrun] at hdone
          cases hdone
      | ok between =>
          rw [hrun] at hdone
          exact ih hdone

end Statements

/-- Statements come to their end, or up to the first that fails. -/
theorem exists_statements (context : Context) (store : Store) (statements : List Statement) :
    (∃ store', statements.foldlM (Statement.run context) store = .ok store') ∨
      ∃ done failing undone store' error, statements = done ++ failing :: undone ∧
        done.foldlM (Statement.run context) store = .ok store' ∧
        failing.run context store' = .error error := by
  induction statements generalizing store with
  | nil => exact .inl ⟨store, rfl⟩
  | cons statement statements ih =>
      cases hrun : statement.run context store with
      | error error => exact .inr ⟨[], statement, statements, store, error, rfl, rfl, hrun⟩
      | ok between =>
          have hcons : ∀ rest : List Statement,
              (statement :: rest).foldlM (Statement.run context) store =
                rest.foldlM (Statement.run context) between := by
            intro rest
            rw [List.foldlM_cons, hrun]
            rfl
          rcases ih between with ⟨store', h⟩ | ⟨done, failing, undone, store', error, rfl, hdone, h⟩
          · exact .inl ⟨store', (hcons _).trans h⟩
          · exact .inr ⟨statement :: done, failing, undone, store', error, rfl,
              (hcons _).trans hdone, h⟩

/-! ## Every run takes a course -/

theorem exists_trailers (context : Context) (store : Store) (steps : List Step) :
    ∃ store' verdicts error, Trailers context store steps store' verdicts error := by
  induction steps generalizing store with
  | nil => exact ⟨store, [], none, .finish store⟩
  | cons step steps ih =>
      cases step with
      | check assertion =>
          cases hvalue : assertion.expression.eval ⟨context, store⟩ with
          | error error => exact ⟨_, _, _, .checkFails hvalue⟩
          | ok value =>
              obtain ⟨store', verdicts, error, h⟩ := ih store
              exact ⟨_, _, _, .check hvalue h⟩
      | perform effect =>
          rcases exists_statements context store effect.statements with
            ⟨between, hrun⟩ | ⟨done, failing, undone, store', error, hsplit, hdone, hfailing⟩
          · obtain ⟨store', verdicts, error, h⟩ := ih between
            exact ⟨_, _, _, .perform hrun h⟩
          · exact ⟨_, _, _, .performFails hsplit hdone hfailing⟩

theorem exists_block (mode : MissingValue) (policy : JsonPolicy) (text : String) (store : Store)
    (client : Client) :
    ∃ outcome store' client', Block mode policy text store client outcome store' client' := by
  cases hread : RequestBlock.ofString text with
  | error error => exact ⟨_, _, _, .noRequest hread⟩
  | ok block =>
    rcases exists_steps block.trailers with
      ⟨steps, hcompiled⟩ | ⟨front, failing, behind, error, hsplit, hfront, hfails⟩
    · cases hfilled : block.resolve mode store with
      | error missing => exact ⟨_, _, _, .notFilled hread hcompiled hfilled⟩
      | ok request =>
        have hready : Prepared mode text store block steps request :=
          ⟨hread, hcompiled, hfilled⟩
        rcases hanswer : client.exchange request.withContentLength with
          ⟨failure | response, client'⟩
        · exact ⟨_, _, _, .notAnswered hready hanswer⟩
        · cases hjson : policy.decode response with
          | error error => exact ⟨_, _, _, .notDecoded hready hanswer hjson⟩
          | ok json =>
            obtain ⟨store', verdicts, error, h⟩ :=
              exists_trailers (contextOf response json) store steps
            exact ⟨_, _, _, .carriedOut hready hanswer hjson h⟩
    · exact ⟨_, _, _, .notCompiled hread hsplit hfront hfails⟩

theorem exists_blocks (mode : MissingValue) (policy : JsonPolicy) (store : Store)
    (client : Client) (texts : List String) :
    ∃ outcomes store' client', Blocks mode policy store client texts outcomes store' client' := by
  induction texts generalizing store client with
  | nil => exact ⟨[], store, client, .nil store client⟩
  | cons text texts ih =>
      obtain ⟨outcome, between, mid, hblock⟩ := exists_block mode policy text store client
      obtain ⟨outcomes, store', client', hblocks⟩ := ih between mid
      exact ⟨_, _, _, .cons hblock hblocks⟩

end Course

end HttpDoctest
