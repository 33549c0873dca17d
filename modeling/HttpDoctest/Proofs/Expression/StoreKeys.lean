import HttpDoctest.Proofs.Expression.Failures

set_option autoImplicit false

/-! # The keys of the store that an expression reads

An expression gets at the store by the name of the store and by `this`. Where one of the two stands
in front of a literal key, at most one entry of the store is looked up. A key that is computed may
be that of any entry, and alone each of the two is an object with all entries in it, as is the
member `store` of `this`. An expression in which each of them asks for one key by a literal
(`Expr.NamesItsKeys`) cannot tell two stores apart that agree on these keys, whatever else they hold
(`only_named_keys_are_read`).

The store only enters where it is mentioned, and so two evaluations are compared mention by mention:
if each finds the same in both stores (`Mention.FindsSame`), every part of the expression that is
evaluated has the same value or error, and the same parts are left out.
-/

namespace HttpDoctest

/-! ## Mentions of the store -/

/-- A place in an expression where `this` or the store stands, with the key if it is the object of
a member with a literal key. -/
structure Mention where
  owner : Owner
  key? : Option Value

/-- The key of the store that a mention asks for, if it asks for one. The member `store` of `this`
is the whole store. -/
def Mention.name? (mention : Mention) : Option String := do
  let key ← mention.key?
  if mention.owner = .this ∧ key.text = storeName then none else some key.text

theorem Mention.name?_eq_some_iff {mention : Mention} {name : String} :
    mention.name? = some name ↔ ∃ key, mention.key? = some key ∧
      ¬(mention.owner = .this ∧ key.text = storeName) ∧ key.text = name := by
  rw [name?]
  show mention.key?.bind _ = _ ↔ _
  rw [Option.bind_eq_some_iff]
  refine exists_congr fun key => and_congr_right fun _ => ?_
  rw [Option.ite_none_left_eq_some, Option.some.injEq]

namespace Expr

/-- The value of a literal. -/
def literal? : Expr → Option Value
  | literal value => some value
  | _ => none

theorem literal?_eq_some_iff {tree : Expr} {value : Value} :
    tree.literal? = some value ↔ tree = literal value := by
  cases tree with
  | literal other => rw [literal?, Option.some.injEq, literal.injEq]
  | array | this | identifier | member | call | unary | binary | conditional =>
      constructor
      · rintro ⟨⟩
      · rintro ⟨⟩

mutual

/-- The mentions of `this` and of the store in an expression. -/
def mentions : Expr → List Mention
  | literal _ => []
  | array items => mentionsOfAll items
  | this => [⟨.this, none⟩]
  | identifier name => if name = storeName then [⟨.store, none⟩] else []
  | member object key => match object.owner? with
    | some owner => ⟨owner, key.literal?⟩ :: key.mentions
    | none => object.mentions ++ key.mentions
  | call object _ arguments => object.mentions ++ mentionsOfAll arguments
  | unary _ operand => operand.mentions
  | binary _ left right => left.mentions ++ right.mentions
  | conditional test consequent alternate =>
      test.mentions ++ (consequent.mentions ++ alternate.mentions)

/-- The mentions of `this` and of the store in several expressions. -/
def mentionsOfAll : List Expr → List Mention
  | [] => []
  | item :: items => item.mentions ++ mentionsOfAll items

end

/-- Whether each mention of `this` or of the store asks for one key, and none for all entries. -/
def NamesItsKeys (tree : Expr) : Prop :=
  ∀ mention ∈ tree.mentions, mention.name?.isSome

instance (tree : Expr) : Decidable tree.NamesItsKeys :=
  inferInstanceAs (Decidable (∀ mention ∈ tree.mentions, mention.name?.isSome))

/-- The keys of the store that an expression names. -/
def storeKeys (tree : Expr) : List String :=
  tree.mentions.filterMap Mention.name?

end Expr

/-! ## Stores that agree -/

/-- Whether two tables have the same under each of the names, be it a value or nothing. -/
def Table.AgreeOn {α : Type} (names : List String) (s t : Table α) : Prop :=
  ∀ name ∈ names, s.get? name = t.get? name

section TwoStores

variable {context : Context} {s t : Store}

/-- Whether a mention asks for one key, under which both stores have the same. -/
def Mention.FindsSame (s t : Store) (mention : Mention) : Prop :=
  ∃ name, mention.name? = some name ∧ s.get? name = t.get? name

theorem Expr.NamesItsKeys.findsSame {tree : Expr} (hnamed : tree.NamesItsKeys)
    (hagree : Table.AgreeOn tree.storeKeys s t) :
    ∀ mention ∈ tree.mentions, mention.FindsSame s t := by
  intro mention hmem
  obtain ⟨name, hname⟩ := Option.isSome_iff_exists.1 (hnamed mention hmem)
  exact ⟨name, hname, hagree name (List.mem_filterMap.2 ⟨mention, hmem, hname⟩)⟩

/-- A mention without a key finds the whole store. -/
theorem Mention.not_findsSame_none (owner : Owner) : ¬FindsSame s t ⟨owner, none⟩ := by
  rintro ⟨name, ⟨⟩, -⟩

/-! ## Looking up in both stores -/

theorem Scope.stored_congr {key : Value} (h : s.get? key.text = t.get? key.text) :
    stored ⟨context, s⟩ key = stored ⟨context, t⟩ key := by
  rw [stored, stored, h]

/-- All fields of `this` but the store come from the response. -/
theorem Scope.field?_congr {name : String} (h : name ≠ storeName) :
    field? ⟨context, s⟩ name = field? ⟨context, t⟩ name := by
  simp only [field?, if_neg h]

theorem Scope.thisMember_congr {key : Value} (hname : key.text ≠ storeName)
    (h : s.get? key.text = t.get? key.text) :
    thisMember ⟨context, s⟩ key = thisMember ⟨context, t⟩ key := by
  rw [thisMember, thisMember, field?_congr hname, stored_congr h]

/-! ## Evaluating in both stores -/

namespace Expr

theorem eval_identifier_congr {name : String} (h : name ≠ storeName) :
    (identifier name).eval ⟨context, s⟩ = (identifier name).eval ⟨context, t⟩ := by
  rw [eval, eval, Scope.field?_congr h]

theorem eval_member_congr {owner : Owner} {key : Expr}
    (h : Mention.FindsSame s t ⟨owner, key.literal?⟩) :
    (member owner.expr key).eval ⟨context, s⟩ = (member owner.expr key).eval ⟨context, t⟩ := by
  obtain ⟨name, hname, hget⟩ := h
  obtain ⟨value, hkey, howner, rfl⟩ := Mention.name?_eq_some_iff.1 hname
  obtain rfl := literal?_eq_some_iff.1 hkey
  have heval (scope : Scope) : (literal value).eval scope = .ok value := by rw [eval]
  cases owner with
  | this =>
      rw [Owner.expr, eval_member_this (heval _), eval_member_this (heval _),
        Scope.thisMember_congr (fun hstore => howner ⟨rfl, hstore⟩) hget]
  | store =>
      rw [Owner.expr, eval_member_store (heval _), eval_member_store (heval _),
        Scope.stored_congr hget]

mutual

theorem eval_congr :
    ∀ tree : Expr, (∀ mention ∈ tree.mentions, mention.FindsSame s t) →
      tree.eval ⟨context, s⟩ = tree.eval ⟨context, t⟩
  | .literal value, _ => by
      rw [eval, eval]
  | .array items, h => by
      rw [eval, eval, evalAll_congr items h]
  | .this, h =>
      absurd (h _ List.mem_cons_self) (Mention.not_findsSame_none .this)
  | .identifier name, h => by
      refine eval_identifier_congr fun hname => ?_
      rw [mentions, if_pos hname] at h
      exact Mention.not_findsSame_none .store (h _ List.mem_cons_self)
  | .member object key, h => by
      rw [mentions] at h
      cases howner : object.owner? with
      | some owner =>
          -- the object itself is not evaluated, and so it need not have the same value
          rw [howner] at h
          rw [owner?_eq_some_iff.1 howner]
          exact eval_member_congr (h _ List.mem_cons_self)
      | none =>
          rw [howner] at h
          obtain ⟨hobject, hkey⟩ := List.forall_mem_append.1 h
          rw [eval, eval, eval_congr key hkey, howner, eval_congr object hobject]
  | .call object method arguments, h => by
      obtain ⟨hobject, harguments⟩ := List.forall_mem_append.1 h
      rw [eval, eval, eval_congr object hobject, evalAll_congr arguments harguments]
  | .unary op operand, h => by
      rw [eval, eval, eval_congr operand h]
  | .binary op left right, h => by
      -- the right operand has the same value in both stores, whether or not it is asked for
      obtain ⟨hleft, hright⟩ := List.forall_mem_append.1 h
      rw [eval, eval, eval_congr left hleft, eval_congr right hright]
  | .conditional test consequent alternate, h => by
      obtain ⟨htest, h⟩ := List.forall_mem_append.1 h
      obtain ⟨hconsequent, halternate⟩ := List.forall_mem_append.1 h
      rw [eval, eval, eval_congr test htest, eval_congr consequent hconsequent,
        eval_congr alternate halternate]

theorem evalAll_congr :
    ∀ items : List Expr, (∀ mention ∈ mentionsOfAll items, mention.FindsSame s t) →
      evalAll ⟨context, s⟩ items = evalAll ⟨context, t⟩ items
  | [], _ => by
      rw [evalAll, evalAll]
  | item :: items, h => by
      obtain ⟨hitem, hitems⟩ := List.forall_mem_append.1 h
      rw [evalAll, evalAll, eval_congr item hitem, evalAll_congr items hitems]

end

/-- **An expression reads only the keys of the store that it names.** If each mention of the store
and of `this` asks for one key by a literal, two stores that agree on these keys give the expression
the same value or the same error, in every context. -/
theorem only_named_keys_are_read (tree : Expr) (hnamed : tree.NamesItsKeys) (s t : Store)
    (hagree : Table.AgreeOn tree.storeKeys s t) (context : Context) :
    tree.eval ⟨context, s⟩ = tree.eval ⟨context, t⟩ :=
  eval_congr tree (hnamed.findsSame hagree)

/-- Two stores with one user and different sessions, in either order, give the name of the user. A
store without a user does not. -/
theorem session_is_not_read :
    let tree := conditional (member this (literal (.string "admin")))
      (member (identifier "store") (literal (.string "secret")))
      (member (member (identifier "store") (literal (.string "user"))) (literal (.string "name")))
    let user : Value := .object [("name", .string "Ada")]
    let s : Store := (Table.empty.put "user" user).put "session" (.string "first")
    let t : Store := (Table.empty.put "session" (.string "second")).put "user" user
    let context : Context := ⟨200, .undefined, "", .empty⟩
    ofSource "this.admin ? store.secret : store.user.name" = .ok tree ∧
      tree.NamesItsKeys ∧ tree.storeKeys = ["admin", "secret", "user"] ∧
      Table.AgreeOn tree.storeKeys s t ∧
      tree.eval ⟨context, s⟩ = .ok (.string "Ada") ∧
      tree.eval ⟨context, t⟩ = .ok (.string "Ada") ∧
      tree.eval ⟨context, .empty⟩ = .error (.propertyOfNothing "name" "undefined") := by
  intro tree user s t context
  have htokens : Token.ofSource "this.admin ? store.secret : store.user.name" =
      .ok [⟨.identifier "this", 0⟩, ⟨.symbol .dot, 4⟩, ⟨.identifier "admin", 5⟩,
        ⟨.symbol .question, 11⟩, ⟨.identifier "store", 13⟩, ⟨.symbol .dot, 18⟩,
        ⟨.identifier "secret", 19⟩, ⟨.symbol .colon, 26⟩, ⟨.identifier "store", 28⟩,
        ⟨.symbol .dot, 33⟩, ⟨.identifier "user", 34⟩, ⟨.symbol .dot, 38⟩,
        ⟨.identifier "name", 39⟩] := by decide +kernel
  have hsource : ofSource "this.admin ? store.secret : store.user.name" = .ok tree := by
    rw [ofSource, htokens]
    cbv
  have hnamed : tree.NamesItsKeys := by decide
  have hkeys : tree.storeKeys = ["admin", "secret", "user"] := by decide
  have hagree : Table.AgreeOn tree.storeKeys s t := by
    rw [hkeys]
    exact List.forall_mem_cons.2
      ⟨rfl, List.forall_mem_cons.2 ⟨rfl, List.forall_mem_singleton.2 rfl⟩⟩
  have hs : tree.eval ⟨context, s⟩ = .ok (.string "Ada") := rfl
  have ht : tree.eval ⟨context, t⟩ = .ok (.string "Ada") :=
    (only_named_keys_are_read tree hnamed s t hagree context).symm.trans hs
  exact ⟨hsource, hnamed, hkeys, hagree, hs, ht, rfl⟩

end Expr

end TwoStores

end HttpDoctest
