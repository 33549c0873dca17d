import HttpDoctest.Proofs.Expression.Statements

set_option autoImplicit false

/-! # The names in an expression

An expression asks for what stands under a name only if the name is an identifier of it
(`Expr.names`). Such an identifier is a token that the expression was read from
(`Grammar.Derives.names_sublist`), and so it stands in the source, at the place that the token tells
(`Token.occurs_of_mem`).
-/

namespace HttpDoctest

/-! ## Names of trees -/

namespace Expr

mutual

/-- The identifiers in an expression. -/
def names : Expr → List String
  | literal _ => []
  | array items => namesOfAll items
  | this => []
  | identifier name => [name]
  | member object key => object.names ++ key.names
  | call object _ arguments => object.names ++ namesOfAll arguments
  | unary _ operand => operand.names
  | binary _ left right => left.names ++ right.names
  | conditional test consequent alternate =>
      test.names ++ (consequent.names ++ alternate.names)

/-- The identifiers in several expressions. -/
def namesOfAll : List Expr → List String
  | [] => []
  | item :: items => item.names ++ namesOfAll items

end

/-- The names that do not stand for themselves are no identifiers. -/
theorem names_of_keyword {name : String} {tree : Expr} (h : (name, tree) ∈ Grammar.keywords) :
    tree.names = [] := by
  simp only [Grammar.keywords, List.mem_cons, Prod.mk.injEq, List.not_mem_nil, or_false] at h
  obtain ⟨-, rfl⟩ | ⟨-, rfl⟩ | ⟨-, rfl⟩ | ⟨-, rfl⟩ | ⟨-, rfl⟩ | ⟨-, rfl⟩ | ⟨-, rfl⟩ := h <;> rfl

end Expr

/-- The identifiers in a statement. -/
def Statement.names : Statement → List String
  | evaluate expression => expression.names
  | assign place value => place.key.names ++ value.names

/-! ## Names of tokens -/

namespace Grammar

/-- The identifiers in the trees of a phrase. -/
def Phrase.names : Phrase → List String
  | expression tree => tree.names
  | level _ tree => tree.names
  | unary tree => tree.names
  | access tree => tree.names
  | primary tree => tree.names
  | items trees => Expr.namesOfAll trees
  | list trees => Expr.namesOfAll trees

/-- The names of the identifiers among tokens. -/
def identifiers (tokens : List Token) : List String :=
  tokens.filterMap fun token => match token.kind with
    | .identifier name => some name
    | _ => none

theorem mem_identifiers {tokens : List Token} {name : String} :
    name ∈ identifiers tokens ↔ ∃ i, ⟨.identifier name, i⟩ ∈ tokens := by
  rw [identifiers, List.mem_filterMap]
  constructor
  · rintro ⟨⟨kind, i⟩, hmem, hname⟩
    cases kind with
    | identifier other =>
        cases hname
        exact ⟨i, hmem⟩
    | number | string | symbol => cases hname
  · rintro ⟨i, hmem⟩
    exact ⟨_, hmem, rfl⟩

variable {tokens before behind : List Token}

theorem identifiers_append :
    identifiers (before ++ behind) = identifiers before ++ identifiers behind :=
  List.filterMap_append

theorem identifiers_symbol {sign : Symbol} {i : Nat} :
    identifiers (⟨.symbol sign, i⟩ :: tokens) = identifiers tokens :=
  rfl

theorem identifiers_closed {sign : Symbol} {i : Nat} :
    identifiers (tokens ++ [⟨.symbol sign, i⟩]) = identifiers tokens := by
  rw [identifiers_append]
  exact List.append_nil _

/-- The identifiers of a phrase stand among those of its tokens, in order. -/
theorem Derives.names_sublist {phrase : Phrase} (h : Derives phrase tokens) :
    phrase.names.Sublist (identifiers tokens) := by
  induction h with
  | chain _ ih => exact ih
  | conditional _ _ _ ihtest ihconsequent ihalternate =>
      rw [identifiers_append, identifiers_symbol, identifiers_append, identifiers_symbol]
      exact ihtest.append (ihconsequent.append ihalternate)
  | operator _ _ _ ihleft ihright =>
      rw [identifiers_append, identifiers_symbol]
      exact ihleft.append ihright
  | tighter _ ih => exact ih
  | operand _ ih => exact ih
  | sign _ _ ih =>
      -- the sign may be an identifier as well, which is then left out
      exact ih.trans ((List.sublist_cons_self _ _).filterMap _)
  | bare _ ih => exact ih
  | plain _ ih => exact ih
  | name _ ih =>
      rw [identifiers_append]
      exact ih.append (List.nil_sublist _)
  | key _ _ ihobject ihkey =>
      rw [identifiers_append, identifiers_symbol, identifiers_closed]
      exact ihobject.append ihkey
  | call _ _ ihobject ihitems =>
      -- the name of the method is a literal text, and no identifier
      rw [identifiers_append, identifiers_symbol, identifiers_closed]
      exact ((List.sublist_append_left _ _).trans ihobject).append ihitems
  | number => exact List.nil_sublist _
  | string => exact List.nil_sublist _
  | keyword hmem =>
      rw [Phrase.names, Expr.names_of_keyword hmem]
      exact List.nil_sublist _
  | identifier => exact .refl _
  | group _ ih =>
      rw [identifiers_symbol, identifiers_closed]
      exact ih
  | array _ ih =>
      rw [identifiers_symbol, identifiers_closed]
      exact ih
  | empty => exact .refl _
  | listed _ ih => exact ih
  | last _ ih =>
      rw [Phrase.names, Expr.namesOfAll, Expr.namesOfAll, List.append_nil]
      exact ih
  | more _ _ ihitem ihothers =>
      rw [identifiers_append, identifiers_symbol]
      exact ihitem.append ihothers

theorem IsExpression.names_sublist {tree : Expr} (h : IsExpression tokens tree) :
    tree.names.Sublist (identifiers tokens) := by
  obtain h | ⟨front, i, rfl, h⟩ := h
  · exact h.names_sublist
  · rw [identifiers_closed]
    exact h.names_sublist

theorem IsStatement.names_sublist {statement : Statement} (h : IsStatement statement tokens) :
    statement.names.Sublist (identifiers tokens) := by
  cases h with
  | evaluate h => exact h.names_sublist
  | @assign target value place before behind i htarget hplace hvalue =>
      rw [identifiers_append, identifiers_symbol]
      refine .append ?_ hvalue.names_sublist
      cases target with
      | member object key =>
          obtain ⟨owner, -, rfl⟩ := Option.map_eq_some_iff.1 hplace
          exact (List.sublist_append_right _ _).trans htarget.names_sublist
      | literal | array | this | identifier | call | unary | binary | conditional => cases hplace

theorem IsStatements.names_subset {statements : List Statement}
    (h : IsStatements statements tokens) :
    ∀ statement ∈ statements, statement.names ⊆ identifiers tokens := by
  induction h with
  | nil => exact List.forall_mem_nil _
  | surplus _ ih =>
      rw [identifiers_symbol]
      exact ih
  | last hfirst =>
      rw [List.forall_mem_singleton]
      exact hfirst.names_sublist.subset
  | more hfirst _ ih =>
      rw [identifiers_append, identifiers_symbol, List.forall_mem_cons]
      refine ⟨List.subset_append_of_subset_left _ hfirst.names_sublist.subset, ?_⟩
      exact fun statement hmem => List.subset_append_of_subset_right _ (ih statement hmem)

end Grammar

/-! ## Names in sources -/

/-- Whether an identifier is a token of a source. It then stands in the source as text. -/
def Occurs (name source : String) : Prop :=
  ∃ tokens offset front back, Token.ofSource source = .ok tokens ∧
    ⟨.identifier name, offset⟩ ∈ tokens ∧ source.toList = front ++ name.toList ++ back ∧
    Text.byteLength front = offset

theorem Lexeme.text_of_identifier {offset : Nat} {c : Char} {source : List Char}
    {lexeme : Lexeme (c :: source)} {name : String} (h : first offset c source = .ok lexeme)
    (hkind : lexeme.kind = .identifier name) : lexeme.text = name.toList := by
  unfold first at h
  split at h
  · unfold numeral at h
    split at h
    · cases h
      cases hkind
    · cases h
  · split at h
    · unfold string at h
      split at h
      · cases h
        cases hkind
      · cases h
    · split at h
      · cases h
        cases hkind
        rw [String.toList_ofList]
        rfl
      · unfold symbol at h
        split at h
        · cases h
          cases hkind
        · cases h

namespace Token

/-- An identifier stands in the source at the place that its token tells. -/
theorem exists_of_mem_scan {offset : Nat} {source : List Char} {tokens : List Token}
    {name : String} {i : Nat} (h : scan offset source = .ok tokens)
    (hmem : ⟨.identifier name, i⟩ ∈ tokens) :
    ∃ front back, source = front ++ name.toList ++ back ∧ offset + Text.byteLength front = i := by
  fun_induction scan offset source generalizing tokens with
  | case1 offset =>
      cases h
      cases hmem
  | case2 offset c source hblank ih =>
      obtain ⟨front, back, rfl, hplace⟩ := ih h hmem
      refine ⟨c :: front, back, rfl, ?_⟩
      rw [Text.byteLength_cons, ← Nat.add_assoc, hplace]
  | case3 offset c source hblank ih =>
      obtain ⟨lexeme, hfirst, h⟩ := bind_eq_ok_iff.1 h
      obtain ⟨behind, hbehind, htokens⟩ := bind_eq_ok_iff.1 h
      cases htokens
      rw [← lexeme.text_append_rest]
      rcases List.mem_cons.1 hmem with heq | hmem
      · injection heq with hkind hplace
        refine ⟨[], lexeme.rest, ?_, hplace.symm⟩
        rw [Lexeme.text_of_identifier hfirst hkind.symm, List.nil_append]
      · obtain ⟨front, back, hrest, hplace⟩ := ih lexeme hbehind hmem
        refine ⟨lexeme.text ++ front, back, ?_, ?_⟩
        · rw [hrest, List.append_assoc, List.append_assoc, List.append_assoc]
        · rw [Text.byteLength_append, ← Nat.add_assoc, hplace]

theorem occurs_of_mem {source name : String} {tokens : List Token}
    (h : ofSource source = .ok tokens) (hmem : name ∈ Grammar.identifiers tokens) :
    Occurs name source := by
  obtain ⟨i, hmem⟩ := Grammar.mem_identifiers.1 hmem
  obtain ⟨front, back, hsource, hplace⟩ := exists_of_mem_scan h hmem
  rw [Nat.zero_add] at hplace
  exact ⟨tokens, i, front, back, h, hmem, hsource, hplace⟩

end Token

end HttpDoctest
