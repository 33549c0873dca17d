import HttpDoctest.Expression.Grammar

set_option autoImplicit false

/-! # The grammar of expressions in productions

Which tokens are an expression, and with which tree, told without a reader (`Derives`). Binary
operators stand on six levels (`operators`), and a phrase of a level has at its left a phrase of
the same level and at its right one of the next, so that operators of one level group to the left
and those of a higher level bind tighter. Nothing here says in what order tokens are looked at.

A tree does not show the parentheses that it was written with. Where the grouping of operators is
at stake, an operand in parentheses (`Grouped`) therefore counts apart.
-/

namespace HttpDoctest

/-- How tightly the root of a tree binds. -/
def Expr.strength : Expr → Nat
  | .conditional _ _ _ => 0
  | .binary op _ _ => op.precedence
  | _ => 7

theorem BinaryOp.precedence_lt (op : BinaryOp) : op.precedence < 7 := by
  cases op <;> decide

end HttpDoctest

namespace HttpDoctest.Grammar

/-! ## Signs and words -/

/-- The binary operators of a level, with their signs. -/
def operators : Nat → List (Symbol × BinaryOp)
  | 1 => [(.or, .or)]
  | 2 => [(.and, .and)]
  | 3 => [(.equal, .equal), (.notEqual, .notEqual), (.strictEqual, .strictEqual),
      (.strictNotEqual, .strictNotEqual)]
  | 4 => [(.less, .less), (.lessEqual, .lessEqual), (.greater, .greater),
      (.greaterEqual, .greaterEqual)]
  | 5 => [(.plus, .add), (.minus, .subtract)]
  | 6 => [(.star, .multiply), (.slash, .divide), (.percent, .remainder)]
  | _ => []

/-- The tokens that are unary operators. -/
def unarySigns : List (TokenKind × UnaryOp) :=
  [(.symbol .bang, .not), (.symbol .minus, .negate), (.symbol .plus, .plus),
    (.identifier "typeof", .typeOf)]

/-- The names that do not stand for themselves. -/
def keywords : List (String × Expr) :=
  [("true", .literal (.bool true)), ("false", .literal (.bool false)), ("null", .literal .null),
    ("undefined", .literal .undefined), ("NaN", .literal (.number Number.nan)),
    ("Infinity", .literal (.number Number.infinity)), ("this", .this)]

theorem mem_operators_iff {n : Nat} {sign : Symbol} {op : BinaryOp} :
    (sign, op) ∈ operators n ↔ BinaryOp.ofSymbol? sign = some op ∧ op.precedence = n := by
  constructor
  · intro h
    unfold operators at h
    split at h
    all_goals
      simp only [List.mem_cons, Prod.mk.injEq, List.not_mem_nil, or_false] at h
    · obtain ⟨rfl, rfl⟩ := h
      exact ⟨rfl, rfl⟩
    · obtain ⟨rfl, rfl⟩ := h
      exact ⟨rfl, rfl⟩
    · obtain ⟨rfl, rfl⟩ | ⟨rfl, rfl⟩ | ⟨rfl, rfl⟩ | ⟨rfl, rfl⟩ := h <;> exact ⟨rfl, rfl⟩
    · obtain ⟨rfl, rfl⟩ | ⟨rfl, rfl⟩ | ⟨rfl, rfl⟩ | ⟨rfl, rfl⟩ := h <;> exact ⟨rfl, rfl⟩
    · obtain ⟨rfl, rfl⟩ | ⟨rfl, rfl⟩ := h <;> exact ⟨rfl, rfl⟩
    · obtain ⟨rfl, rfl⟩ | ⟨rfl, rfl⟩ | ⟨rfl, rfl⟩ := h <;> exact ⟨rfl, rfl⟩
  · rintro ⟨hop, rfl⟩
    unfold BinaryOp.ofSymbol? at hop
    split at hop <;> cases hop <;> decide

theorem unaryOp?_eq_some_iff {op : UnaryOp} {tokens more : List Token} :
    unaryOp? tokens = some (op, more) ↔
      ∃ kind i, tokens = ⟨kind, i⟩ :: more ∧ (kind, op) ∈ unarySigns := by
  constructor
  · intro h
    unfold unaryOp? at h
    split at h
    · cases h
      exact ⟨_, _, rfl, by decide⟩
    · cases h
      exact ⟨_, _, rfl, by decide⟩
    · cases h
      exact ⟨_, _, rfl, by decide⟩
    · next name i rest =>
      split at h
      · next hname =>
        subst hname
        cases h
        exact ⟨_, _, rfl, by decide⟩
      · cases h
    · cases h
  · rintro ⟨kind, i, rfl, h⟩
    simp only [unarySigns, List.mem_cons, Prod.mk.injEq, List.not_mem_nil, or_false] at h
    obtain ⟨rfl, rfl⟩ | ⟨rfl, rfl⟩ | ⟨rfl, rfl⟩ | ⟨rfl, rfl⟩ := h <;> rfl

theorem ofName_eq {name : String} {tree : Expr} (h : (name, tree) ∈ keywords) :
    Expr.ofName name = tree := by
  simp only [keywords, List.mem_cons, Prod.mk.injEq, List.not_mem_nil, or_false] at h
  obtain ⟨rfl, rfl⟩ | ⟨rfl, rfl⟩ | ⟨rfl, rfl⟩ | ⟨rfl, rfl⟩ | ⟨rfl, rfl⟩ | ⟨rfl, rfl⟩ | ⟨rfl, rfl⟩ :=
    h <;> rfl

theorem ofName_eq_identifier {name : String} (h : name ∉ keywords.map Prod.fst) :
    Expr.ofName name = .identifier name := by
  simp only [keywords, List.map_cons, List.map_nil, List.mem_cons, List.not_mem_nil, or_false,
    not_or] at h
  obtain ⟨h₁, h₂, h₃, h₄, h₅, h₆, h₇⟩ := h
  rw [Expr.ofName, if_neg h₁, if_neg h₂, if_neg h₃, if_neg h₄, if_neg h₅, if_neg h₆, if_neg h₇]

/-! ## Productions -/

/-- The kinds of phrases, each with the tree that it has. -/
inductive Phrase where
  | expression (tree : Expr)
  | level (n : Nat) (tree : Expr)
  | unary (tree : Expr)
  | access (tree : Expr)
  | primary (tree : Expr)
  | items (trees : List Expr)
  | list (trees : List Expr)

/-- `Derives phrase tokens`: the tokens are a phrase of the kind and with the tree that `phrase`
names. Level 7 has no operators of its own. A call stands behind a phrase whose tree is the access
of a key that is a literal text, in parentheses or not. Only `items` may be empty. -/
inductive Derives : Phrase → List Token → Prop
  | chain {tree : Expr} {tokens : List Token} :
      Derives (.level 1 tree) tokens → Derives (.expression tree) tokens
  | conditional {test consequent alternate : Expr} {before between behind : List Token}
      {i j : Nat} :
      Derives (.level 1 test) before → Derives (.expression consequent) between →
      Derives (.expression alternate) behind →
      Derives (.expression (.conditional test consequent alternate))
        (before ++ ⟨.symbol .question, i⟩ :: (between ++ ⟨.symbol .colon, j⟩ :: behind))
  | operator {n : Nat} {sign : Symbol} {op : BinaryOp} {left right : Expr}
      {before behind : List Token} {i : Nat} :
      (sign, op) ∈ operators n → Derives (.level n left) before →
      Derives (.level (n + 1) right) behind →
      Derives (.level n (.binary op left right)) (before ++ ⟨.symbol sign, i⟩ :: behind)
  | tighter {n : Nat} {tree : Expr} {tokens : List Token} :
      Derives (.level (n + 1) tree) tokens → Derives (.level n tree) tokens
  | operand {tree : Expr} {tokens : List Token} :
      Derives (.unary tree) tokens → Derives (.level 7 tree) tokens
  | sign {kind : TokenKind} {op : UnaryOp} {tree : Expr} {tokens : List Token} {i : Nat} :
      (kind, op) ∈ unarySigns → Derives (.unary tree) tokens →
      Derives (.unary (.unary op tree)) (⟨kind, i⟩ :: tokens)
  | bare {tree : Expr} {tokens : List Token} :
      Derives (.access tree) tokens → Derives (.unary tree) tokens
  | plain {tree : Expr} {tokens : List Token} :
      Derives (.primary tree) tokens → Derives (.access tree) tokens
  | name {object : Expr} {name : String} {tokens : List Token} {i j : Nat} :
      Derives (.access object) tokens →
      Derives (.access (.member object (.literal (.string name))))
        (tokens ++ [⟨.symbol .dot, i⟩, ⟨.identifier name, j⟩])
  | key {object key : Expr} {tokens inner : List Token} {i j : Nat} :
      Derives (.access object) tokens → Derives (.expression key) inner →
      Derives (.access (.member object key))
        (tokens ++ ⟨.symbol .openBracket, i⟩ :: (inner ++ [⟨.symbol .closeBracket, j⟩]))
  | call {object : Expr} {method : String} {trees : List Expr} {tokens inner : List Token}
      {i j : Nat} :
      Derives (.access (.member object (.literal (.string method)))) tokens →
      Derives (.items trees) inner →
      Derives (.access (.call object method trees))
        (tokens ++ ⟨.symbol .openParen, i⟩ :: (inner ++ [⟨.symbol .closeParen, j⟩]))
  | number {x : Float} {i : Nat} :
      Derives (.primary (.literal (.number x))) [⟨.number x, i⟩]
  | string {s : String} {i : Nat} :
      Derives (.primary (.literal (.string s))) [⟨.string s, i⟩]
  | keyword {name : String} {tree : Expr} {i : Nat} :
      (name, tree) ∈ keywords → Derives (.primary tree) [⟨.identifier name, i⟩]
  | identifier {name : String} {i : Nat} :
      name ∉ keywords.map Prod.fst → name ≠ "typeof" →
      Derives (.primary (.identifier name)) [⟨.identifier name, i⟩]
  | group {tree : Expr} {inner : List Token} {i j : Nat} :
      Derives (.expression tree) inner →
      Derives (.primary tree) (⟨.symbol .openParen, i⟩ :: (inner ++ [⟨.symbol .closeParen, j⟩]))
  | array {trees : List Expr} {inner : List Token} {i j : Nat} :
      Derives (.items trees) inner →
      Derives (.primary (.array trees))
        (⟨.symbol .openBracket, i⟩ :: (inner ++ [⟨.symbol .closeBracket, j⟩]))
  | empty : Derives (.items []) []
  | listed {trees : List Expr} {tokens : List Token} :
      Derives (.list trees) tokens → Derives (.items trees) tokens
  | last {tree : Expr} {tokens : List Token} :
      Derives (.expression tree) tokens → Derives (.list [tree]) tokens
  | more {tree : Expr} {trees : List Expr} {before behind : List Token} {i : Nat} :
      Derives (.expression tree) before → Derives (.list trees) behind →
      Derives (.list (tree :: trees)) (before ++ ⟨.symbol .comma, i⟩ :: behind)

/-- Tokens that are an expression with the given tree, behind which one semicolon may stand. -/
def IsExpression (tokens : List Token) (tree : Expr) : Prop :=
  Derives (.expression tree) tokens ∨
    ∃ front i, tokens = front ++ [⟨.symbol .semicolon, i⟩] ∧ Derives (.expression tree) front

/-- A phrase of a level is one of every level below. -/
theorem Derives.level_of_le {m n : Nat} (hle : n ≤ m) {tree : Expr} {tokens : List Token}
    (h : Derives (.level m tree) tokens) : Derives (.level n tree) tokens := by
  induction hle with
  | refl => exact h
  | step _ ih => exact ih (.tighter h)

/-! ## How tightly phrases bind -/

/-- An expression in parentheses. -/
def Grouped (tree : Expr) (tokens : List Token) : Prop :=
  ∃ i inner j, tokens = ⟨.symbol .openParen, i⟩ :: (inner ++ [⟨.symbol .closeParen, j⟩]) ∧
    Derives (.expression tree) inner

/-- An operand of level `n`: its tree binds at least that tightly, or it is in parentheses. -/
def Binds (n : Nat) (tree : Expr) (tokens : List Token) : Prop :=
  Derives (.level n tree) tokens ∧ (n ≤ tree.strength ∨ Grouped tree tokens)

section Binds

variable {n : Nat} {tree : Expr} {tokens : List Token}

theorem Derives.strength_primary (h : Derives (.primary tree) tokens) :
    7 ≤ tree.strength ∨ Grouped tree tokens := by
  cases h with
  | group h => exact .inr ⟨_, _, _, rfl, h⟩
  | keyword h =>
      simp only [keywords, List.mem_cons, Prod.mk.injEq, List.not_mem_nil, or_false] at h
      obtain ⟨-, rfl⟩ | ⟨-, rfl⟩ | ⟨-, rfl⟩ | ⟨-, rfl⟩ | ⟨-, rfl⟩ | ⟨-, rfl⟩ | ⟨-, rfl⟩ := h <;>
        exact .inl (Nat.le_refl _)
  | number | string | identifier | array => exact .inl (Nat.le_refl _)

theorem Derives.strength_unary (h : Derives (.unary tree) tokens) :
    7 ≤ tree.strength ∨ Grouped tree tokens := by
  cases h with
  | sign => exact .inl (Nat.le_refl _)
  | bare h =>
      cases h with
      | plain h => exact h.strength_primary
      | name | key | call => exact .inl (Nat.le_refl _)

theorem Derives.binds (h : Derives (.level n tree) tokens) : Binds n tree tokens := by
  refine ⟨h, ?_⟩
  generalize hphrase : Phrase.level n tree = phrase at h
  induction h generalizing n with
  | operator hop =>
      cases hphrase
      exact .inl (Nat.le_of_eq (mem_operators_iff.1 hop).2.symm)
  | tighter _ ih =>
      cases hphrase
      exact (ih rfl).imp_left Nat.le_of_succ_le
  | operand h =>
      cases hphrase
      exact h.strength_unary
  | _ => cases hphrase

variable {op : BinaryOp} {left right : Expr}

/-- Where a phrase of a level has an operator at its root, its tokens fall apart at a sign of
this operator into the two operands, unless the phrase is in parentheses. -/
theorem Derives.operands_level (h : Derives (.level n (.binary op left right)) tokens) :
    Grouped (.binary op left right) tokens ∨
      ∃ before sign i behind, tokens = before ++ ⟨.symbol sign, i⟩ :: behind ∧
        (sign, op) ∈ operators op.precedence ∧ Binds op.precedence left before ∧
        Binds (op.precedence + 1) right behind := by
  generalize hphrase : Phrase.level n (.binary op left right) = phrase at h
  induction h generalizing n with
  | operator hop hleft hright =>
      cases hphrase
      obtain rfl := (mem_operators_iff.1 hop).2
      exact .inr ⟨_, _, _, _, rfl, hop, hleft.binds, hright.binds⟩
  | tighter _ ih =>
      cases hphrase
      exact ih rfl
  | operand h =>
      cases hphrase
      exact .inl (h.strength_unary.resolve_left (Nat.not_le.2 op.precedence_lt))
  | _ => cases hphrase

theorem Derives.operands (h : Derives (.expression (.binary op left right)) tokens) :
    Grouped (.binary op left right) tokens ∨
      ∃ before sign i behind, tokens = before ++ ⟨.symbol sign, i⟩ :: behind ∧
        (sign, op) ∈ operators op.precedence ∧ Binds op.precedence left before ∧
        Binds (op.precedence + 1) right behind := by
  cases h with
  | chain h => exact h.operands_level

end Binds

end HttpDoctest.Grammar
