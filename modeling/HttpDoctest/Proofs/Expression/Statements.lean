import HttpDoctest.Proofs.Expression.Boundaries
import HttpDoctest.Proofs.Expression.Completeness

set_option autoImplicit false

/-! # Statements in productions

A statement is an expression or an assignment, and statements stand between semicolons, of which
there may be more than needed. The reader of statements accepts exactly what derives in this way
(`statements_eq_ok_iff_isStatements`). Where the tokens stand does not matter
(`IsStatements.shift`), and a semicolon ends a statement as the end of the tokens does, so that the
statements of two token lists with a semicolon between them are those of the one and then those of
the other (`IsStatements.append`).
-/

namespace HttpDoctest.Grammar

variable {tokens rest : List Token} {i : Nat} {first : Statement} {found : List Statement}

/-! ## The readers -/

theorem reads_statement :
    Reads (statement tokens) first rest ↔
      ∃ tree left, Reads (expression tokens) tree left ∧
        ((eat? .assign left = none ∧ first = .evaluate tree ∧ rest = left) ∨
          ∃ more place value, eat? .assign left = some more ∧ tree.place? = some place ∧
            Reads (expression more) value rest ∧ first = .assign place value) := by
  rw [statement, reads_bind]
  constructor
  · rintro ⟨tree, left, htree, h⟩
    refine ⟨tree, left, htree, ?_⟩
    dsimp only at h
    split at h
    · next hnone => exact .inl ⟨hnone, reads_pure.1 h⟩
    · next more hmore =>
      split at h
      · exact absurd h not_reads_error
      · next place hplace =>
        obtain ⟨value, behind, hvalue, h⟩ := reads_bind.1 h
        obtain ⟨rfl, rfl⟩ := reads_pure.1 h
        exact .inr ⟨more, place, value, hmore, hplace, hvalue, rfl⟩
  · rintro ⟨tree, left, htree, h⟩
    refine ⟨tree, left, htree, ?_⟩
    dsimp only
    rcases h with ⟨hnone, rfl, rfl⟩ | ⟨more, place, value, hmore, hplace, hvalue, rfl⟩
    · split
      · exact reads_pure.2 ⟨rfl, rfl⟩
      · next heq => cases hnone.symm.trans heq
    · split
      · next heq => cases hmore.symm.trans heq
      · next heq =>
        cases hmore.symm.trans heq
        rw [hplace]
        exact reads_bind.2 ⟨value, rest, hvalue, reads_pure.2 ⟨rfl, rfl⟩⟩

theorem statements_semicolon :
    statements (⟨.symbol .semicolon, i⟩ :: tokens) = statements tokens := by
  rw [statements]
  split
  · next more hmore =>
    cases (eat?_cons .semicolon).symm.trans hmore
    rfl
  · next hnone => cases (eat?_cons .semicolon).symm.trans hnone

theorem statements_eq_ok_iff (hsemicolon : eat? .semicolon tokens = none) (hne : tokens ≠ []) :
    statements tokens = .ok found ↔
      ∃ first rest, Reads (statement tokens) first rest ∧
        ((rest = [] ∧ found = [first]) ∨
          ∃ more others, eat? .semicolon rest = some more ∧ statements more = .ok others ∧
            found = first :: others) := by
  cases tokens with
  | nil => exact absurd rfl hne
  | cons token tokens =>
  rw [statements]
  split
  · next heq => cases hsemicolon.symm.trans heq
  · constructor
    · intro h
      obtain ⟨⟨first, rest, hlt⟩, hreading, h⟩ := bind_eq_ok_iff.1 h
      refine ⟨first, rest, ⟨hlt, hreading⟩, ?_⟩
      dsimp only at h
      split at h
      · next hempty =>
        cases h
        exact .inl ⟨List.isEmpty_iff.1 hempty, rfl⟩
      · split at h
        · next more hmore =>
          obtain ⟨others, hothers, h⟩ := bind_eq_ok_iff.1 h
          cases h
          exact .inr ⟨more, others, hmore, hothers, rfl⟩
        · cases h
    · rintro ⟨first, rest, ⟨hlt, hreading⟩, h⟩
      refine bind_eq_ok_iff.2 ⟨_, hreading, ?_⟩
      dsimp only
      rcases h with ⟨rfl, rfl⟩ | ⟨more, others, hmore, hothers, rfl⟩
      · rfl
      · obtain ⟨i, rfl⟩ := eat?_eq_some_iff.1 hmore
        rw [if_neg (by simp)]
        split
        · next heq =>
          cases hmore.symm.trans heq
          exact bind_eq_ok_iff.2 ⟨others, hothers, rfl⟩
        · next heq => cases hmore.symm.trans heq

/-! ## Productions -/

/-- Tokens that are a statement. -/
inductive IsStatement : Statement → List Token → Prop
  | evaluate {tree : Expr} {tokens : List Token} :
      Derives (.expression tree) tokens → IsStatement (.evaluate tree) tokens
  | assign {target value : Expr} {place : Place} {before behind : List Token} {i : Nat} :
      Derives (.expression target) before → target.place? = some place →
      Derives (.expression value) behind →
      IsStatement (.assign place value) (before ++ ⟨.symbol .assign, i⟩ :: behind)

/-- Tokens that are statements with semicolons between them and surplus ones anywhere. -/
inductive IsStatements : List Statement → List Token → Prop
  | nil : IsStatements [] []
  | surplus {found : List Statement} {tokens : List Token} {i : Nat} :
      IsStatements found tokens → IsStatements found (⟨.symbol .semicolon, i⟩ :: tokens)
  | last {first : Statement} {tokens : List Token} :
      IsStatement first tokens → IsStatements [first] tokens
  | more {first : Statement} {found : List Statement} {before behind : List Token} {i : Nat} :
      IsStatement first before → IsStatements found behind →
      IsStatements (first :: found) (before ++ ⟨.symbol .semicolon, i⟩ :: behind)

/-! ## What is read is statements -/

theorem isStatement_of_reads (h : Reads (statement tokens) first rest) :
    ∃ front, tokens = front ++ rest ∧ IsStatement first front := by
  obtain ⟨tree, left, htree, ⟨-, rfl, rfl⟩ | ⟨more, place, value, hmore, hplace, hvalue, rfl⟩⟩ :=
    reads_statement.1 h
  · obtain ⟨front, rfl, hfront⟩ := takes_expression htree
    exact ⟨front, rfl, .evaluate hfront⟩
  · obtain ⟨before, rfl, hbefore⟩ := takes_expression htree
    obtain ⟨i, rfl⟩ := eat?_eq_some_iff.1 hmore
    obtain ⟨behind, rfl, hbehind⟩ := takes_expression hvalue
    exact ⟨before ++ ⟨.symbol .assign, i⟩ :: behind, by simp, .assign hbefore hplace hbehind⟩

theorem isStatements_of_statements (h : statements tokens = .ok found) :
    IsStatements found tokens := by
  induction hlength : tokens.length using Nat.strongRecOn generalizing tokens found with
  | ind n ih =>
  rcases eat?_cases .semicolon tokens with hnone | ⟨i, more, rfl⟩
  · by_cases hne : tokens = []
    · subst hne
      rw [statements] at h
      cases h
      exact .nil
    · obtain ⟨first, rest, hfirst, hothers⟩ := (statements_eq_ok_iff hnone hne).1 h
      have hlt := hfirst.length_lt
      obtain ⟨front, rfl, hfront⟩ := isStatement_of_reads hfirst
      rcases hothers with ⟨rfl, rfl⟩ | ⟨more, others, hmore, hothers, rfl⟩
      · rw [List.append_nil]
        exact .last hfront
      · have := length_of_eat? hmore
        obtain ⟨i, rfl⟩ := eat?_eq_some_iff.1 hmore
        exact .more hfront (ih more.length (by omega) hothers rfl)
  · rw [statements_semicolon] at h
    rw [List.length_cons] at hlength
    exact .surplus (ih more.length (by omega) h rfl)

/-! ## Statements are read -/

theorem ends_assign : Ends (⟨.symbol .assign, i⟩ :: rest) :=
  ⟨⟨rfl, rfl, rfl⟩, rfl, rfl⟩

theorem IsStatement.reads (h : IsStatement first tokens) (hends : Ends rest)
    (hassign : eat? .assign rest = none) : Reads (statement (tokens ++ rest)) first rest := by
  cases h with
  | evaluate htree =>
      exact reads_statement.2 ⟨_, rest, htree.completes hends, .inl ⟨hassign, rfl, rfl⟩⟩
  | assign htarget hplace hvalue =>
      rw [List.append_assoc, List.cons_append]
      exact reads_statement.2 ⟨_, _, htarget.completes ends_assign,
        .inr ⟨_, _, _, eat?_cons _, hplace, hvalue.completes hends, rfl⟩⟩

theorem not_reads_statement_semicolon :
    ¬Reads (statement (⟨.symbol .semicolon, i⟩ :: tokens)) first rest := by
  intro h
  obtain ⟨_, _, htree, -⟩ := reads_statement.1 h
  exact not_reads_expression_symbol rfl (by decide) (by decide) htree

theorem statements_of_reads (h : Reads (statement tokens) first rest) :
    eat? .semicolon tokens = none ∧ tokens ≠ [] := by
  constructor
  · rcases eat?_cases .semicolon tokens with hnone | ⟨i, more, rfl⟩
    · exact hnone
    · exact absurd h not_reads_statement_semicolon
  · rintro rfl
    exact absurd h.length_lt (Nat.not_lt_zero _)

theorem IsStatements.statements_eq (h : IsStatements found tokens) :
    statements tokens = .ok found := by
  induction h with
  | nil => rw [statements]
  | surplus _ ih => rw [statements_semicolon, ih]
  | @last first tokens hfirst =>
      have hreads : Reads (statement (tokens ++ [])) first [] := hfirst.reads ends_nil rfl
      rw [List.append_nil] at hreads
      obtain ⟨hsemicolon, hne⟩ := statements_of_reads hreads
      exact (statements_eq_ok_iff hsemicolon hne).2 ⟨first, [], hreads, .inl ⟨rfl, rfl⟩⟩
  | @more first found before behind i hfirst _ ih =>
      have hends : Ends (⟨.symbol .semicolon, i⟩ :: behind) := ends_cons (by decide)
      have hreads := hfirst.reads hends rfl
      obtain ⟨hsemicolon, hne⟩ := statements_of_reads hreads
      exact (statements_eq_ok_iff hsemicolon hne).2
        ⟨_, _, hreads, .inr ⟨_, _, eat?_cons _, ih, rfl⟩⟩

theorem statements_eq_ok_iff_isStatements :
    statements tokens = .ok found ↔ IsStatements found tokens :=
  ⟨isStatements_of_statements, IsStatements.statements_eq⟩

/-! ## Statements elsewhere and next to each other -/

theorem Derives.shift (n : Nat) {phrase : Phrase} (h : Derives phrase tokens) :
    Derives phrase (tokens.map (Token.shift n)) := by
  induction h with
  | chain _ ih => exact .chain ih
  | conditional _ _ _ ihtest ihconsequent ihalternate =>
      rw [List.map_append, List.map_cons, List.map_append, List.map_cons]
      exact .conditional ihtest ihconsequent ihalternate
  | operator hop _ _ ihleft ihright =>
      rw [List.map_append, List.map_cons]
      exact .operator hop ihleft ihright
  | tighter _ ih => exact .tighter ih
  | operand _ ih => exact .operand ih
  | sign hop _ ih => exact .sign hop ih
  | bare _ ih => exact .bare ih
  | plain _ ih => exact .plain ih
  | name _ ih =>
      rw [List.map_append]
      exact .name ih
  | key _ _ ihobject ihkey =>
      rw [List.map_append, List.map_cons, List.map_append]
      exact .key ihobject ihkey
  | call _ _ ihobject ihitems =>
      rw [List.map_append, List.map_cons, List.map_append]
      exact .call ihobject ihitems
  | number => exact .number
  | string => exact .string
  | keyword hmem => exact .keyword hmem
  | identifier hname htypeof => exact .identifier hname htypeof
  | group _ ih =>
      rw [List.map_cons, List.map_append]
      exact .group ih
  | array _ ih =>
      rw [List.map_cons, List.map_append]
      exact .array ih
  | empty => exact .empty
  | listed _ ih => exact .listed ih
  | last _ ih => exact .last ih
  | more _ _ ihitem ihothers =>
      rw [List.map_append, List.map_cons]
      exact .more ihitem ihothers

theorem IsStatement.shift (n : Nat) (h : IsStatement first tokens) :
    IsStatement first (tokens.map (Token.shift n)) := by
  cases h with
  | evaluate htree => exact .evaluate (htree.shift n)
  | assign htarget hplace hvalue =>
      rw [List.map_append, List.map_cons]
      exact .assign (htarget.shift n) hplace (hvalue.shift n)

theorem IsStatements.shift (n : Nat) (h : IsStatements found tokens) :
    IsStatements found (tokens.map (Token.shift n)) := by
  induction h with
  | nil => exact .nil
  | surplus _ ih => exact .surplus ih
  | last hfirst => exact .last (hfirst.shift n)
  | more hfirst _ ih =>
      rw [List.map_append, List.map_cons]
      exact .more (hfirst.shift n) ih

theorem IsStatements.append {others : List Statement} {behind : List Token}
    (h : IsStatements found tokens) (hbehind : IsStatements others behind) (i : Nat) :
    IsStatements (found ++ others) (tokens ++ ⟨.symbol .semicolon, i⟩ :: behind) := by
  induction h with
  | nil => exact .surplus hbehind
  | surplus _ ih => exact .surplus ih
  | last hfirst => exact .more hfirst hbehind
  | more hfirst _ ih =>
      rw [List.append_assoc, List.cons_append, List.cons_append]
      exact .more hfirst ih

end HttpDoctest.Grammar
