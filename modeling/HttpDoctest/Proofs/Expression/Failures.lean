import HttpDoctest.Proofs.Expression.Assignment
import HttpDoctest.Proofs.Expression.Names

set_option autoImplicit false

/-! # What can fail at run time

A source that compiles has been read as a whole, and so nothing that is wrong with its text is left
to be found when it is carried out. An expression then fails where a name stands for nothing, where
a member of `undefined` or `null` is asked for, and where there is no method of a name. A side
effect also fails where it assigns to a part of the response
(`compiled_sources_fail_at_run_time_only`).

What an assignment may have for a target is decided twice: when the statement is read
(`Expr.place?`), and when it is carried out (`Expr.assignmentKey`). The two agree on every tree.
-/

namespace HttpDoctest

/-! ## Errors that an action can end with -/

section FailsOnly

variable {ε α β : Type} {P Q : ε → Prop}

/-- Whether an action fails, if it does, with an error as `P` tells. -/
def FailsOnly (P : ε → Prop) (action : Except ε α) : Prop :=
  ∀ error, action = .error error → P error

theorem failsOnly_ok (value : α) : FailsOnly P (.ok value : Except ε α) :=
  nofun

theorem failsOnly_error {error : ε} (h : P error) : FailsOnly P (.error error : Except ε α) := by
  rintro _ ⟨⟩
  exact h

theorem FailsOnly.bind {action : Except ε α} {rest : α → Except ε β} (h : FailsOnly P action)
    (hrest : ∀ value, FailsOnly P (rest value)) : FailsOnly P (action >>= rest) := by
  cases action with
  | error error => exact failsOnly_error (h error rfl)
  | ok value => exact hrest value

theorem FailsOnly.mono {action : Except ε α} (h : FailsOnly P action)
    (hPQ : ∀ error, P error → Q error) : FailsOnly Q action :=
  fun error herror => hPQ error (h error herror)

end FailsOnly

/-! ## Expressions -/

/-- The errors of evaluation, where a name that stands for nothing is as `P` tells. -/
inductive ExprError.AtRunTime (P : String → Prop) : ExprError → Prop
  | unknownIdentifier {name : String} :
      P name → name ∉ Scope.fieldNames → AtRunTime P (.unknownIdentifier name)
  | propertyOfNothing (property object : String) :
      AtRunTime P (.propertyOfNothing property object)
  | notAFunction (method : String) : AtRunTime P (.notAFunction method)

variable {P : String → Prop}

theorem failsOnly_property (base key : Value) :
    FailsOnly (ExprError.AtRunTime P) (base.property key) := by
  cases base with
  | undefined | null => exact failsOnly_error (.propertyOfNothing _ _)
  | bool | number | object => exact failsOnly_ok _
  | string | array =>
      rw [Value.property]
      split
      · exact failsOnly_ok _
      · exact failsOnly_ok _

theorem failsOnly_invoke (base : Value) (method : String) (arguments : List Value) :
    FailsOnly (ExprError.AtRunTime P) (base.invoke method arguments) := by
  unfold Value.invoke
  split
  · exact failsOnly_error (.propertyOfNothing _ _)
  · exact failsOnly_error (.propertyOfNothing _ _)
  · split
    · exact failsOnly_ok _
    · exact failsOnly_error (.notAFunction _)

mutual

theorem failsOnly_eval (scope : Scope) :
    ∀ tree : Expr, (∀ name ∈ tree.names, P name) →
      FailsOnly (ExprError.AtRunTime P) (tree.eval scope)
  | .literal value, _ => by
      rw [Expr.eval]
      exact failsOnly_ok _
  | .array items, h => by
      rw [Expr.eval]
      exact (failsOnly_evalAll scope items h).bind fun _ => failsOnly_ok _
  | .this, _ => by
      rw [Expr.eval]
      exact failsOnly_ok _
  | .identifier name, h => by
      rw [Expr.eval]
      split
      · exact failsOnly_ok _
      · next hfield =>
        exact failsOnly_error (.unknownIdentifier (h name List.mem_cons_self)
          (Scope.field?_eq_none_iff.1 hfield))
  | .member object key, h => by
      obtain ⟨hobject, hkey⟩ := List.forall_mem_append.1 h
      rw [Expr.eval]
      refine (failsOnly_eval scope key hkey).bind fun k => ?_
      -- a member of `this` or of the store is looked up, and `undefined` if it is not there
      split
      · exact failsOnly_ok _
      · exact failsOnly_ok _
      · exact (failsOnly_eval scope object hobject).bind fun base => failsOnly_property base k
  | .call object method arguments, h => by
      obtain ⟨hobject, harguments⟩ := List.forall_mem_append.1 h
      rw [Expr.eval]
      exact (failsOnly_eval scope object hobject).bind fun target =>
        (failsOnly_evalAll scope arguments harguments).bind fun values =>
          failsOnly_invoke target method values
  | .unary op operand, h => by
      rw [Expr.eval]
      exact (failsOnly_eval scope operand h).bind fun _ => failsOnly_ok _
  | .binary op left right, h => by
      obtain ⟨hleft, hright⟩ := List.forall_mem_append.1 h
      rw [Expr.eval]
      refine (failsOnly_eval scope left hleft).bind fun l => ?_
      split
      · exact failsOnly_ok _
      · exact (failsOnly_eval scope right hright).bind fun _ => failsOnly_ok _
  | .conditional test consequent alternate, h => by
      obtain ⟨htest, h⟩ := List.forall_mem_append.1 h
      obtain ⟨hconsequent, halternate⟩ := List.forall_mem_append.1 h
      rw [Expr.eval]
      refine (failsOnly_eval scope test htest).bind fun t => ?_
      split
      · exact failsOnly_eval scope consequent hconsequent
      · exact failsOnly_eval scope alternate halternate

theorem failsOnly_evalAll (scope : Scope) :
    ∀ items : List Expr, (∀ name ∈ Expr.namesOfAll items, P name) →
      FailsOnly (ExprError.AtRunTime P) (Expr.evalAll scope items)
  | [], _ => by
      rw [Expr.evalAll]
      exact failsOnly_ok _
  | item :: items, h => by
      obtain ⟨hitem, hitems⟩ := List.forall_mem_append.1 h
      rw [Expr.evalAll]
      exact (failsOnly_eval scope item hitem).bind fun _ =>
        (failsOnly_evalAll scope items hitems).bind fun _ => failsOnly_ok _

end

/-! ## Targets of assignments -/

/-- The expression that names an owner. -/
def Owner.expr : Owner → Expr
  | this => .this
  | store => .identifier storeName

/-- The expression that names a place. -/
def Place.target (place : Place) : Expr :=
  .member place.owner.expr place.key

/-- The key of the store that an assignment to a target writes, where the target may be any
expression. -/
def Expr.assignmentKey (scope : Scope) : Expr → Except ExprError String
  | member object key => do
      let name := (← key.eval scope).text
      match object with
      | this => if name ∈ Scope.fieldNames then throw (.readOnlyProperty name) else return name
      | identifier other =>
          if other = storeName then return name else throw .invalidAssignmentTarget
      | _ => throw .invalidAssignmentTarget
  | _ => throw .invalidAssignmentTarget

theorem Expr.owner?_eq_some_iff {object : Expr} {owner : Owner} :
    object.owner? = some owner ↔ object = owner.expr := by
  constructor
  · intro h
    cases object with
    | this =>
        cases h
        rfl
    | identifier name =>
        rw [owner?] at h
        split at h
        · next hname =>
          cases h
          rw [hname]
          rfl
        · cases h
    | literal | array | member | call | unary | binary | conditional => cases h
  · rintro rfl
    cases owner <;> rfl

theorem Expr.place?_eq_some_iff {target : Expr} {place : Place} :
    target.place? = some place ↔ target = place.target := by
  cases target with
  | member object key =>
      rw [place?, Option.map_eq_some_iff]
      constructor
      · rintro ⟨owner, howner, rfl⟩
        rw [owner?_eq_some_iff.1 howner]
        rfl
      · intro h
        obtain ⟨rfl, rfl⟩ := member.inj h
        exact ⟨place.owner, owner?_eq_some_iff.2 rfl, rfl⟩
  | literal | array | this | identifier | call | unary | binary | conditional =>
      constructor
      · rintro ⟨⟩
      · rintro ⟨⟩

/-- What is accepted for a target when it is read is one when the assignment is carried out. -/
theorem Place.assignmentKey_target (place : Place) (scope : Scope) :
    place.target.assignmentKey scope = place.key? scope := by
  obtain ⟨owner, key⟩ := place
  rw [target, Expr.assignmentKey, key?]
  cases owner <;> rfl

/-! ## Statements -/

/-- The errors of a side effect: those of evaluation, and that a field of `this` is assigned to. -/
inductive ExprError.OfSideEffect (P : String → Prop) : ExprError → Prop
  | evaluation {error : ExprError} : error.AtRunTime P → OfSideEffect P error
  | readOnlyProperty {name : String} :
      name ∈ Scope.fieldNames → OfSideEffect P (.readOnlyProperty name)

theorem failsOnly_key? {place : Place} (scope : Scope) (h : ∀ name ∈ place.key.names, P name) :
    FailsOnly (ExprError.OfSideEffect P) (place.key? scope) := by
  have hkey : FailsOnly (ExprError.OfSideEffect P) (place.key.eval scope) :=
    (failsOnly_eval scope place.key h).mono fun _ => .evaluation
  rw [Place.key?]
  refine hkey.bind fun k => ?_
  dsimp only
  split
  · split
    · next hfield => exact failsOnly_error (.readOnlyProperty hfield)
    · exact failsOnly_ok _
  · exact failsOnly_ok _

theorem failsOnly_run (context : Context) (store : Store) {statement : Statement}
    (h : ∀ name ∈ statement.names, P name) :
    FailsOnly (ExprError.OfSideEffect P) (statement.run context store) := by
  have heval (tree : Expr) (htree : ∀ name ∈ tree.names, P name) :
      FailsOnly (ExprError.OfSideEffect P) (tree.eval ⟨context, store⟩) :=
    (failsOnly_eval _ tree htree).mono fun _ => .evaluation
  cases statement with
  | evaluate expression =>
      rw [Statement.run]
      exact (heval expression h).bind fun _ => failsOnly_ok _
  | assign place value =>
      obtain ⟨hplace, hvalue⟩ := List.forall_mem_append.1 h
      rw [Statement.run]
      exact (failsOnly_key? _ hplace).bind fun _ => (heval value hvalue).bind fun _ =>
        failsOnly_ok _

theorem failsOnly_runAll (context : Context) (store : Store) {statements : List Statement}
    (h : ∀ statement ∈ statements, ∀ name ∈ statement.names, P name) :
    FailsOnly (ExprError.OfSideEffect P) (Statement.runAll context store statements).2 := by
  induction statements generalizing store with
  | nil => exact failsOnly_ok _
  | cons statement statements ih =>
      obtain ⟨hfirst, hrest⟩ := List.forall_mem_cons.1 h
      rw [Statement.runAll]
      split
      · exact ih _ hrest
      · next herror => exact failsOnly_error (failsOnly_run context store hfirst _ herror)

/-! ## Assignments as they are written -/

namespace Grammar

variable {tokens behind : List Token} {target value : Expr} {place : Place} {i : Nat}

/-- Every assignment among statements was written as its place, an equals sign and its value. -/
theorem IsStatements.exists_assignment {statements : List Statement}
    (h : IsStatements statements tokens) (hmem : .assign place value ∈ statements) :
    ∃ before behind i, before ++ ⟨.symbol .assign, i⟩ :: behind <:+: tokens ∧
      Derives (.expression place.target) before ∧ Derives (.expression value) behind := by
  have hfirst {tokens : List Token} (h : IsStatement (.assign place value) tokens) :
      ∃ before behind i, before ++ ⟨.symbol .assign, i⟩ :: behind = tokens ∧
        Derives (.expression place.target) before ∧ Derives (.expression value) behind := by
    cases h with
    | assign htarget hplace hvalue =>
        obtain rfl := Expr.place?_eq_some_iff.1 hplace
        exact ⟨_, _, _, rfl, htarget, hvalue⟩
  induction h with
  | nil => cases hmem
  | surplus _ ih =>
      obtain ⟨before, behind, i, htokens, hwritten⟩ := ih hmem
      exact ⟨before, behind, i, htokens.trans (List.suffix_cons _ _).isInfix, hwritten⟩
  | last h =>
      obtain rfl := List.mem_singleton.1 hmem
      obtain ⟨before, behind, i, rfl, hwritten⟩ := hfirst h
      exact ⟨before, behind, i, List.infix_refl _, hwritten⟩
  | more h _ ih =>
      rcases List.mem_cons.1 hmem with rfl | hmem
      · obtain ⟨before, behind, i, rfl, hwritten⟩ := hfirst h
        exact ⟨before, behind, i, (List.prefix_append _ _).isInfix, hwritten⟩
      · obtain ⟨before, behind, i, htokens, hwritten⟩ := ih hmem
        refine ⟨before, behind, i, htokens.trans ?_, hwritten⟩
        exact (List.suffix_cons _ _).isInfix.trans (List.suffix_append _ _).isInfix

/-- Behind the place that it assigns to, a statement is read as its value is. -/
theorem statement_of_place (htarget : Reads (expression tokens) place.target
      (⟨.symbol .assign, i⟩ :: behind)) :
    (∀ value rest, Reads (expression behind) value rest →
      Reads (statement tokens) (.assign place value) rest) ∧
    ∀ error, expression behind = .error error → statement tokens = .error error := by
  have hplace : place.target.place? = some place := Expr.place?_eq_some_iff.2 rfl
  constructor
  · intro value rest hvalue
    exact reads_statement.2 ⟨_, _, htarget,
      .inr ⟨behind, place, value, eat?_cons _, hplace, hvalue, rfl⟩⟩
  · intro error herror
    obtain ⟨hlt, htarget⟩ := htarget
    rw [statement, htarget]
    dsimp only [bind, Except.bind]
    split
    · next hnone => cases hnone.symm.trans (eat?_cons _)
    · next hmore =>
      cases hmore.symm.trans (eat?_cons _)
      rw [hplace]
      dsimp only
      rw [herror]

/-- An assignment to anything else than a place is rejected when it is read. -/
theorem statement_of_place?_eq_none (htarget : Reads (expression tokens) target
      (⟨.symbol .assign, i⟩ :: behind)) (hplace : target.place? = none) :
    statement tokens = .error .invalidAssignmentTarget := by
  obtain ⟨hlt, htarget⟩ := htarget
  rw [statement, htarget]
  dsimp only [bind, Except.bind]
  split
  · next hnone => cases hnone.symm.trans (eat?_cons _)
  · rw [hplace]

end Grammar

/-! ## Compiled sources -/

theorem Assertion.compile_eq_ok_iff {source : String} {assertion : Assertion} :
    compile source = .ok assertion ↔
      assertion.source = source ∧ Expr.ofSource source = .ok assertion.expression := by
  rw [compile, bind_eq_ok_iff]
  constructor
  · rintro ⟨expression, hexpression, h⟩
    cases h
    exact ⟨rfl, hexpression⟩
  · rintro ⟨rfl, hexpression⟩
    exact ⟨assertion.expression, hexpression, rfl⟩

variable {source : String}

theorem Assertion.failsOnly_holds {assertion : Assertion}
    (h : Assertion.compile source = .ok assertion) (scope : Scope) :
    FailsOnly (ExprError.AtRunTime (Occurs · source)) (assertion.holds scope) := by
  obtain ⟨tokens, htokens, htree⟩ :=
    Grammar.ofSource_eq_ok_iff.1 (Assertion.compile_eq_ok_iff.1 h).2
  have hnames : ∀ name ∈ assertion.expression.names, Occurs name source :=
    fun name hname => Token.occurs_of_mem htokens (htree.names_sublist.subset hname)
  exact (failsOnly_eval scope _ hnames).bind fun _ => failsOnly_ok _

theorem SideEffect.failsOnly_execute {effect : SideEffect}
    (h : SideEffect.compile source = .ok effect) (context : Context) (store : Store) :
    FailsOnly (ExprError.OfSideEffect (Occurs · source)) (effect.execute context store).2 := by
  obtain ⟨-, tokens, htokens, hstatements⟩ := SideEffect.compile_eq_ok_iff.1 h
  have hsubset :=
    (Grammar.statements_eq_ok_iff_isStatements.1 hstatements).names_subset
  exact failsOnly_runAll context store fun statement hmem name hname =>
    Token.occurs_of_mem htokens (hsubset statement hmem hname)

theorem Place.assignmentKey_target_ne (place : Place) (scope : Scope) :
    place.target.assignmentKey scope ≠ .error .invalidAssignmentTarget := by
  intro h
  rw [assignmentKey_target] at h
  have herror := failsOnly_key? (P := fun _ => True) scope (fun _ _ => trivial) _ h
  cases herror with
  | evaluation herror => cases herror

/-- **A source that compiles has no errors left in its text.** An assertion gives a verdict, or
fails where the response and the store do not have what it asks for; so does a side effect, which
may also assign to a part of the response. What a compiled assignment was written to is a target
when it is carried out. The reader of statements rejects no other assignments than those to
something else than a member of `this` or of the store. -/
theorem compiled_sources_fail_at_run_time_only (source : String) :
    (∀ assertion, Assertion.compile source = .ok assertion → ∀ scope,
      (∃ passed, assertion.holds scope = .ok passed) ∨
        ∃ error, assertion.holds scope = .error error ∧ error.AtRunTime (Occurs · source)) ∧
    (∀ effect, SideEffect.compile source = .ok effect →
      (∀ (context : Context) (store : Store),
        (∃ store', effect.execute context store = (store', .ok ())) ∨
          ∃ store' error, effect.execute context store = (store', .error error) ∧
            error.OfSideEffect (Occurs · source)) ∧
      ∀ place value, .assign place value ∈ effect.statements →
        ∃ tokens target before behind i, Token.ofSource source = .ok tokens ∧
          before ++ ⟨.symbol .assign, i⟩ :: behind <:+: tokens ∧
          Grammar.Derives (.expression target) before ∧
          Grammar.Derives (.expression value) behind ∧
          ∀ scope, target.assignmentKey scope = place.key? scope ∧
            target.assignmentKey scope ≠ .error .invalidAssignmentTarget) ∧
    ∀ (tokens behind : List Token) (target : Expr) (i : Nat),
      Grammar.Reads (Grammar.expression tokens) target (⟨.symbol .assign, i⟩ :: behind) →
        (∀ place : Place, target = place.target →
          (∀ value rest, Grammar.Reads (Grammar.expression behind) value rest →
            Grammar.Reads (Grammar.statement tokens) (.assign place value) rest) ∧
          ∀ error, Grammar.expression behind = .error error →
            Grammar.statement tokens = .error error) ∧
        ((∀ place : Place, target ≠ place.target) →
          Grammar.statement tokens = .error .invalidAssignmentTarget) := by
  refine ⟨fun assertion hcompile scope => ?_, fun effect hcompile =>
    ⟨fun context store => ?_, fun place value hmem => ?_⟩, fun tokens behind target i htarget =>
    ⟨?_, fun hplace => ?_⟩⟩
  · have hfails := Assertion.failsOnly_holds hcompile scope
    cases hholds : assertion.holds scope with
    | ok passed => exact .inl ⟨passed, rfl⟩
    | error error => exact .inr ⟨error, rfl, hfails error hholds⟩
  · have hfails := SideEffect.failsOnly_execute hcompile context store
    rcases hexecute : effect.execute context store with ⟨store', error | ⟨⟩⟩
    · rw [hexecute] at hfails
      exact .inr ⟨store', error, rfl, hfails error rfl⟩
    · exact .inl ⟨store', rfl⟩
  · obtain ⟨-, tokens, htokens, hstatements⟩ := SideEffect.compile_eq_ok_iff.1 hcompile
    obtain ⟨before, behind, i, hwritten, htarget, hvalue⟩ :=
      (Grammar.statements_eq_ok_iff_isStatements.1 hstatements).exists_assignment hmem
    exact ⟨tokens, place.target, before, behind, i, htokens, hwritten, htarget, hvalue,
      fun scope => ⟨place.assignmentKey_target scope, place.assignmentKey_target_ne scope⟩⟩
  · rintro place rfl
    exact Grammar.statement_of_place htarget
  · refine Grammar.statement_of_place?_eq_none htarget (Option.eq_none_iff_forall_ne_some.2 ?_)
    exact fun place hsome => hplace place (Expr.place?_eq_some_iff.1 hsome)

/-- A name that stands for nothing, in a source that compiles, and an assignment to it, which is
not read. -/
theorem unknown_name_fails_at_run_time :
    ∃ effect, SideEffect.compile "store.a = b" = .ok effect ∧
      effect.execute ⟨200, .undefined, "", .empty⟩ .empty =
        (.empty, .error (.unknownIdentifier "b")) ∧
      Occurs "b" "store.a = b" ∧
      Grammar.statement [⟨.identifier "b", 0⟩, ⟨.symbol .assign, 2⟩, ⟨.string "x", 4⟩] =
        .error .invalidAssignmentTarget := by
  have hcompile : SideEffect.compile "store.a = b" = .ok ⟨"store.a = b",
      [.assign ⟨.store, .literal (.string "a")⟩ (.identifier "b")]⟩ :=
    SideEffect.compile_eq_ok_iff.2 ⟨rfl,
      [⟨.identifier "store", 0⟩, ⟨.symbol .dot, 5⟩, ⟨.identifier "a", 6⟩, ⟨.symbol .assign, 8⟩,
        ⟨.identifier "b", 10⟩], by decide +kernel, by cbv⟩
  have hexecute : SideEffect.execute ⟨"store.a = b",
      [.assign ⟨.store, .literal (.string "a")⟩ (.identifier "b")]⟩
      ⟨200, .undefined, "", .empty⟩ .empty = (.empty, .error (.unknownIdentifier "b")) := rfl
  have htarget : Grammar.Reads (Grammar.expression [⟨.identifier "b", 0⟩,
      ⟨.symbol .assign, 2⟩, ⟨.string "x", 4⟩]) (.identifier "b")
      [⟨.symbol .assign, 2⟩, ⟨.string "x", 4⟩] :=
    ⟨by decide, by cbv⟩
  obtain ⟨-, heffect, hstatement⟩ := compiled_sources_fail_at_run_time_only "store.a = b"
  have hrejected := (hstatement _ _ _ _ htarget).2 fun place h => by cases h
  refine ⟨_, hcompile, hexecute, ?_, hrejected⟩
  rcases (heffect _ hcompile).1 ⟨200, .undefined, "", .empty⟩ .empty with
    ⟨_, h⟩ | ⟨_, _, h, hfails⟩
  · cases hexecute.symm.trans h
  · cases hexecute.symm.trans h
    cases hfails with
    | evaluation hfails =>
        cases hfails with
        | unknownIdentifier hoccurs => exact hoccurs

end HttpDoctest
