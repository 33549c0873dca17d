import HttpDoctest.Proofs.Expression.SideEffects
import HttpDoctest.Proofs.Template.Placeholders

set_option autoImplicit false

/-! # Reading what was assigned

An assignment writes under one key, the text of the value that stands in its brackets. There are
four ways to read it: a member of the store, a member of `this`, a member of the object that holds
the whole store, and a placeholder. Each has a text of its own to look for, and finds the value if
this is the text that was written under (`ReadsBack`), except where `this` has a field instead.
-/

namespace HttpDoctest

/-! ## Names of fields -/

theorem Scope.field?_eq_none_iff {scope : Scope} {name : String} :
    scope.field? name = none ↔ name ∉ Scope.fieldNames := by
  simp only [field?, fieldNames, List.mem_cons, List.not_mem_nil, or_false, not_or]
  constructor
  · intro h
    split_ifs at h with hstatus hjson hbody hheaders hstore
    exact ⟨hstatus, hjson, hbody, hheaders, hstore⟩
  · rintro ⟨hstatus, hjson, hbody, hheaders, hstore⟩
    rw [if_neg hstatus, if_neg hjson, if_neg hbody, if_neg hheaders, if_neg hstore]

/-! ## Members -/

namespace Expr

variable {scope : Scope} {key : Expr} {k : Value}

theorem eval_member_this (hkey : key.eval scope = .ok k) :
    (member this key).eval scope = .ok (scope.thisMember k) := by
  rw [eval, hkey]
  rfl

theorem eval_member_store (hkey : key.eval scope = .ok k) :
    (member (identifier storeName) key).eval scope = .ok (scope.stored k) := by
  rw [eval, hkey]
  rfl

/-- A member of the object that holds the store is the one that is looked up without it. -/
theorem eval_member_this_store (hkey : key.eval scope = .ok k) :
    (member (member this (literal (.string storeName))) key).eval scope =
      .ok (scope.stored k) := by
  have hname : (literal (.string storeName)).eval scope = .ok (.string storeName) := by rw [eval]
  have hobject : (member this (literal (.string storeName))).eval scope =
      .ok (.object scope.store.entries) := eval_member_this hname
  rw [eval, hkey]
  show (member this (literal (.string storeName))).eval scope >>= (·.property k) = _
  rw [hobject]
  rfl

end Expr

/-! ## Assigning -/

/-- Whether a side effect is the assignment of `value` to `target`. -/
def SideEffect.Assigns (effect : SideEffect) (target value : Expr) : Prop :=
  ∃ place, target.place? = some place ∧ effect.statements = [.assign place value]

/-- What is written as a place, an equals sign and an expression compiles to an assignment. -/
theorem SideEffect.exists_assigns {source : String} {target value : Expr} {place : Place}
    {before behind : List Token} {i : Nat}
    (htokens : Token.ofSource source = .ok (before ++ ⟨.symbol .assign, i⟩ :: behind))
    (htarget : Grammar.Derives (.expression target) before) (hplace : target.place? = some place)
    (hvalue : Grammar.Derives (.expression value) behind) :
    ∃ effect, compile source = .ok effect ∧ effect.Assigns target value := by
  have hstatements : Grammar.statements (before ++ ⟨.symbol .assign, i⟩ :: behind) =
      .ok [.assign place value] :=
    Grammar.statements_eq_ok_iff_isStatements.2 (.last (.assign htarget hplace hvalue))
  exact ⟨⟨source, [.assign place value]⟩, compile_eq_ok_iff.2 ⟨rfl, _, htokens, hstatements⟩,
    place, hplace, rfl⟩

section Assigns

variable {context : Context} {store : Store} {key value : Expr} {k v : Value} {owner : Owner}

theorem Place.key?_of_eval {scope : Scope} (hkey : key.eval scope = .ok k) :
    Place.key? ⟨owner, key⟩ scope =
      if owner = .this ∧ k.text ∈ Scope.fieldNames then .error (.readOnlyProperty k.text)
      else .ok k.text := by
  rw [key?, hkey]
  cases owner with
  | this =>
      show (if k.text ∈ Scope.fieldNames then throw (.readOnlyProperty k.text)
        else pure k.text : Except ExprError String) = _
      by_cases hfield : k.text ∈ Scope.fieldNames
      · rw [if_pos hfield, if_pos ⟨rfl, hfield⟩]
        rfl
      · rw [if_neg hfield, if_neg fun h => hfield h.2]
        rfl
  | store =>
      rw [if_neg fun h => nomatch h.1]
      rfl

/-- An assignment writes under the text of its key, unless this is the name of a field of
`this`. -/
theorem SideEffect.Assigns.execute {effect : SideEffect} {object : Expr}
    (h : effect.Assigns (.member object key) value) (howner : object.owner? = some owner)
    (hkey : key.eval ⟨context, store⟩ = .ok k) (hvalue : value.eval ⟨context, store⟩ = .ok v) :
    effect.execute context store =
      if owner = .this ∧ k.text ∈ Scope.fieldNames then
        (store, .error (.readOnlyProperty k.text))
      else (store.put k.text v, .ok ()) := by
  obtain ⟨place, hplace, hstatements⟩ := h
  rw [Expr.place?, howner] at hplace
  cases hplace
  rw [SideEffect.execute, hstatements, Statement.runAll, Statement.run, Place.key?_of_eval hkey,
    hvalue]
  by_cases hfield : owner = .this ∧ k.text ∈ Scope.fieldNames
  · rw [if_pos hfield, if_pos hfield]
    rfl
  · rw [if_neg hfield, if_neg hfield]
    rfl

end Assigns

/-! ## Reading back -/

/-- Whether `value` is what is read under `name` in every way there is. A key may be any expression
with the text `name`, and the response does not matter. -/
structure ReadsBack (store : Store) (name : String) (value : Value) : Prop where
  member {context : Context} {key : Expr} {k : Value} :
    key.eval ⟨context, store⟩ = .ok k → k.text = name →
      (Expr.member (.identifier storeName) key).eval ⟨context, store⟩ = .ok value
  nested {context : Context} {key : Expr} {k : Value} :
    key.eval ⟨context, store⟩ = .ok k → k.text = name →
      (Expr.member (.member .this (.literal (.string storeName))) key).eval ⟨context, store⟩ =
        .ok value
  this {context : Context} {key : Expr} {k : Value} :
    key.eval ⟨context, store⟩ = .ok k → k.text = name → name ∉ Scope.fieldNames →
      (Expr.member .this key).eval ⟨context, store⟩ = .ok value
  placeholder (mode : MissingValue) :
    Text.Trimmed name.toList → '{' ∉ name.toList → '}' ∉ name.toList →
      Template.interpolate mode store ("\x7b\x7b " ++ name ++ " \x7d\x7d") = .ok value.text

theorem readsBack_of_get? {store : Store} {name : String} {value : Value}
    (h : store.get? name = some value) : ReadsBack store name value := by
  have hstored {context : Context} {k : Value} (htext : k.text = name) :
      Scope.stored ⟨context, store⟩ k = value := by
    rw [Scope.stored, htext, h]
    rfl
  refine ⟨?_, ?_, ?_, ?_⟩
  · intro context key k hkey htext
    rw [Expr.eval_member_store hkey, hstored htext]
  · intro context key k hkey htext
    rw [Expr.eval_member_this_store hkey, hstored htext]
  · intro context key k hkey htext hname
    rw [Expr.eval_member_this hkey, Scope.thisMember, htext, Scope.field?_eq_none_iff.2 hname,
      Option.getD_none, hstored htext]
  · intro mode htrimmed hopen hclose
    have hwrites : Template.Writes name ("\x7b\x7b " ++ name ++ " \x7d\x7d").toList :=
      ⟨htrimmed, ⟨hopen, hclose⟩, [' '], [' '], by decide, by decide, by simp⟩
    exact Template.interpolate_of_writes hwrites h mode

/-- **What is assigned is what is read.** The assignment to a member of the store changes the store
under one key, the text of the key's value, and so does the one to a member of `this`, which fails
and changes nothing if this text is the name of a field. Behind it, whatever asks for this text
gets the value. -/
theorem assigned_value_is_read (context : Context) (store : Store) (key value : Expr) (k v : Value)
    (hkey : key.eval ⟨context, store⟩ = .ok k) (hvalue : value.eval ⟨context, store⟩ = .ok v) :
    ∃ store' : Store,
      store'.get? k.text = some v ∧
      (∀ other, other ≠ k.text → store'.get? other = store.get? other) ∧
      (∀ effect : SideEffect, effect.Assigns (.member (.identifier storeName) key) value →
        effect.execute context store = (store', .ok ())) ∧
      (∀ effect : SideEffect, effect.Assigns (.member .this key) value →
        effect.execute context store =
          if k.text ∈ Scope.fieldNames then (store, .error (.readOnlyProperty k.text))
          else (store', .ok ())) ∧
      ReadsBack store' k.text v := by
  have hget : (store.put k.text v).get? k.text = some v := by rw [Table.get?_put, if_pos rfl]
  refine ⟨store.put k.text v, hget, ?_, ?_, ?_, readsBack_of_get? hget⟩
  · intro other hother
    rw [Table.get?_put, if_neg hother]
  · intro effect hassigns
    exact (hassigns.execute rfl hkey hvalue).trans (if_neg fun h => nomatch h.1)
  · intro effect hassigns
    rw [hassigns.execute rfl hkey hvalue]
    simp only [true_and]

/-- A truth value and its text are one key. -/
theorem assigned_under_truth_value_is_read :
    let context : Context := ⟨200, .undefined, "", .empty⟩
    ∃ effect store', SideEffect.compile "this[true] = 'x'" = .ok effect ∧
      effect.execute context .empty = (store', .ok ()) ∧
      (Expr.member (.identifier storeName) (.literal (.string "true"))).eval ⟨context, store'⟩ =
        .ok (.string "x") ∧
      Template.interpolate .strict store' "\x7b\x7b true \x7d\x7d" = .ok "x" := by
  intro context
  have hexpression {tree : Expr} {tokens : List Token}
      (h : Grammar.Derives (.access tree) tokens) : Grammar.Derives (.expression tree) tokens :=
    .chain (Grammar.Derives.level_of_le (by decide) (.operand (.bare h)))
  have htarget : Grammar.Derives (.expression (.member .this (.literal (.bool true))))
      ([⟨.identifier "this", 0⟩] ++ ⟨.symbol .openBracket, 4⟩ ::
        ([⟨.identifier "true", 5⟩] ++ [⟨.symbol .closeBracket, 9⟩])) :=
    hexpression (.key (.plain (.keyword (by simp [Grammar.keywords])))
      (hexpression (.plain (.keyword (by simp [Grammar.keywords])))))
  have hvalue : Grammar.Derives (.expression (.literal (.string "x"))) [⟨.string "x", 13⟩] :=
    hexpression (.plain .string)
  have htokens : Token.ofSource "this[true] = 'x'" =
      .ok ([⟨.identifier "this", 0⟩] ++ ⟨.symbol .openBracket, 4⟩ ::
        ([⟨.identifier "true", 5⟩] ++ [⟨.symbol .closeBracket, 9⟩]) ++ ⟨.symbol .assign, 11⟩ ::
          [⟨.string "x", 13⟩]) := by decide +kernel
  obtain ⟨effect, hcompile, hassigns⟩ := SideEffect.exists_assigns htokens htarget rfl hvalue
  obtain ⟨store', -, -, -, hassign, hread⟩ := assigned_value_is_read context .empty
    (.literal (.bool true)) (.literal (.string "x")) (.bool true) (.string "x")
    (by rw [Expr.eval]) (by rw [Expr.eval])
  have hname : (Expr.literal (.string "true")).eval ⟨context, store'⟩ = .ok (.string "true") := by
    rw [Expr.eval]
  exact ⟨effect, store', hcompile, (hassign effect hassigns).trans (if_neg (by decide)),
    hread.member hname rfl, hread.placeholder .strict (by decide) (by decide) (by decide)⟩

end HttpDoctest
