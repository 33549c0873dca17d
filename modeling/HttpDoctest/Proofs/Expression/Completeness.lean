import HttpDoctest.Proofs.Expression.Soundness

set_option autoImplicit false

/-! # Every phrase is read

What derives from the grammar is read with the tree that it derives with, whatever stands behind
it, as long as that does not go on with the phrase (`Derives.completes`). Behind a chain of
operators this depends on the level: a phrase of level `n` may be followed by an operator of
level `n`, and is then the left operand of what is read.

With this and the converse the reader accepts exactly the expressions of the grammar. As it gives
one tree at most, no expression has two.
-/

namespace HttpDoctest.Grammar

variable {tokens rest : List Token} {tree : Expr} {i : Nat}

/-! ## What may stand behind a phrase -/

theorem noAccess_nil : NoAccess [] := ⟨rfl, rfl, rfl⟩

theorem noAccess_cons {sign : Symbol} (hdot : sign ≠ .dot) (hbracket : sign ≠ .openBracket)
    (hparen : sign ≠ .openParen) : NoAccess (⟨.symbol sign, i⟩ :: rest) :=
  ⟨if_neg hdot, if_neg hbracket, if_neg hparen⟩

theorem noAccess_operator {sign : Symbol} {op : BinaryOp} (h : BinaryOp.ofSymbol? sign = some op) :
    NoAccess (⟨.symbol sign, i⟩ :: rest) := by
  refine noAccess_cons ?_ ?_ ?_ <;> rintro rfl <;> cases h

theorem stops_of_eq_none {least : Nat} (h : binaryOp? tokens = none) : Stops least tokens :=
  fun _ _ hop => nomatch h.symm.trans hop

/-- Tokens that go on with nothing that belongs to an expression in front of them. -/
structure Ends (tokens : List Token) : Prop where
  noAccess : NoAccess tokens
  binaryOp : binaryOp? tokens = none
  question : eat? .question tokens = none

theorem ends_nil : Ends [] := ⟨noAccess_nil, rfl, rfl⟩

theorem ends_cons {sign : Symbol}
    (h : sign ∈ [Symbol.closeParen, .closeBracket, .comma, .colon, .semicolon]) :
    Ends (⟨.symbol sign, i⟩ :: rest) := by
  simp only [List.mem_cons, List.not_mem_nil, or_false] at h
  obtain rfl | rfl | rfl | rfl | rfl := h <;> exact ⟨⟨rfl, rfl, rfl⟩, rfl, rfl⟩

/-- The signs that a list is closed with. -/
def closing : List Symbol := [.closeParen, .closeBracket]

theorem ends_closing {close : Symbol} (h : close ∈ closing) :
    Ends (⟨.symbol close, i⟩ :: rest) :=
  ends_cons (List.mem_append_left [Symbol.comma, .colon, .semicolon] h)

/-- The signs that an expression starts with are unary operators and the opening ones. -/
theorem not_reads_expression_symbol {sign : Symbol}
    (hunary : unaryOp? (⟨.symbol sign, i⟩ :: tokens) = none) (hparen : sign ≠ .openParen)
    (hbracket : sign ≠ .openBracket) :
    ¬Reads (expression (⟨.symbol sign, i⟩ :: tokens)) tree rest := by
  intro hreads
  -- a reader that starts at the sign ends at the one for primary expressions, which rejects it
  obtain ⟨_, _, hchain, -⟩ := reads_expression.1 hreads
  obtain ⟨_, _, hoperand, -⟩ := reads_binary.1 hchain
  obtain ⟨_, _, _, hop, -⟩ | ⟨-, haccess⟩ := reads_unary.1 hoperand
  · cases hunary.symm.trans hop
  · obtain ⟨_, _, hprimary, -⟩ := reads_access.1 haccess
    exact not_reads_primary_symbol hparen hbracket hprimary

theorem not_reads_expression_closing {close : Symbol} (h : close ∈ closing) :
    ¬Reads (expression (⟨.symbol close, i⟩ :: tokens)) tree rest := by
  simp only [closing, List.mem_cons, List.not_mem_nil, or_false] at h
  obtain rfl | rfl := h <;> exact not_reads_expression_symbol rfl nofun nofun

theorem eat?_closing_eq_none {close : Symbol} (h : close ∈ closing)
    (hreads : Reads (expression tokens) tree rest) : eat? close tokens = none := by
  rcases eat?_cases close tokens with hnone | ⟨i, more, rfl⟩
  · exact hnone
  · exact absurd hreads (not_reads_expression_closing h)

theorem reads_binaryTail_stop {least : Nat} (h : Stops least rest) :
    Reads (binaryTail least tree rest) tree rest :=
  reads_binaryTail.2 (.inr ⟨h, rfl, rfl⟩)

/-! ## Reading a phrase -/

/-- What a reader does with a phrase in front of other tokens. A phrase of a level and an access
are read up to where they end, and then on from there. -/
def Completes : Phrase → List Token → Prop
  | .expression tree, front => ∀ {rest : List Token}, Ends rest →
      Reads (expression (front ++ rest)) tree rest
  | .level n tree, front => ∀ {least : Nat} {rest left : List Token} {whole : Expr}, least < n →
      Stops n rest → NoAccess rest → Reads (binaryTail least tree rest) whole left →
      Reads (binary least (front ++ rest)) whole left
  | .unary tree, front => ∀ {rest : List Token}, NoAccess rest →
      Reads (unary (front ++ rest)) tree rest
  | .access tree, front => ∀ rest : List Token, unaryOp? (front ++ rest) = none ∧
      ∀ {whole : Expr} {left : List Token}, Reads (accessTail tree rest) whole left →
        Reads (access (front ++ rest)) whole left
  | .primary tree, front => ∀ rest : List Token, unaryOp? (front ++ rest) = none ∧
      Reads (primary (front ++ rest)) tree rest
  | .items trees, front => ∀ {close : Symbol} {i : Nat} {rest : List Token}, close ∈ closing →
      Reads (arguments close (front ++ ⟨.symbol close, i⟩ :: rest)) trees rest
  | .list trees, front => ∀ {close : Symbol} {i : Nat} {rest : List Token}, close ∈ closing →
      Reads (argumentList close (front ++ ⟨.symbol close, i⟩ :: rest)) trees rest

theorem eat?_cons (sign : Symbol) : eat? sign (⟨.symbol sign, i⟩ :: rest) = some rest :=
  if_pos rfl

theorem unaryOp?_identifier {name : String} (h : name ≠ "typeof") :
    unaryOp? (⟨.identifier name, i⟩ :: rest) = none :=
  if_neg h

theorem ne_typeof_of_keyword {name : String} (h : (name, tree) ∈ keywords) : name ≠ "typeof" := by
  simp only [keywords, List.mem_cons, Prod.mk.injEq, List.not_mem_nil, or_false] at h
  rintro rfl
  simp at h

theorem Derives.completes {phrase : Phrase} {front : List Token} (h : Derives phrase front) :
    Completes phrase front := by
  induction h with
  | chain _ ih =>
      -- no operator follows, so that the chain of level 1 is read up to `rest`
      intro rest hends
      exact reads_expression.2 ⟨_, rest, ih Nat.zero_lt_one (stops_of_eq_none hends.binaryOp)
        hends.noAccess (reads_binaryTail_stop (stops_of_eq_none hends.binaryOp)),
        .inl ⟨hends.question, rfl, rfl⟩⟩
  | conditional _ _ _ ihtest ihconsequent ihalternate =>
      intro rest hends
      rw [List.append_assoc, List.cons_append, List.append_assoc, List.cons_append]
      exact reads_expression.2 ⟨_, _, ihtest Nat.zero_lt_one (stops_of_eq_none rfl)
        ⟨rfl, rfl, rfl⟩ (reads_binaryTail_stop (stops_of_eq_none rfl)),
        .inr ⟨_, _, _, _, _, eat?_cons _, ihconsequent (ends_cons (by decide)), eat?_cons _,
          ihalternate hends, rfl⟩⟩
  | @operator n sign op left right before behind i hop _ _ ihleft ihright =>
      intro least rest more whole hless hstops haccess htail
      rw [List.append_assoc, List.cons_append]
      obtain ⟨hsign, rfl⟩ := mem_operators_iff.1 hop
      have hnext : binaryOp? (⟨.symbol sign, i⟩ :: (behind ++ rest)) = some (op, behind ++ rest) :=
        binaryOp?_eq_some_iff.2 ⟨sign, i, rfl, hsign⟩
      -- the right operand takes no operator of the level of `op`, so that it ends before `rest`
      have hright : Reads (binary op.precedence (behind ++ rest)) right rest :=
        ihright (Nat.lt_succ_self _) (stops_of_le (Nat.le_succ _) hstops) haccess
          (reads_binaryTail_stop hstops)
      -- for the left operand it is enough that `op` binds no tighter than its level
      refine ihleft hless ?_ (noAccess_operator hsign)
        (reads_binaryTail.2 (.inl ⟨op, _, right, rest, hnext, hless, hright, htail⟩))
      rintro op' _ hop'
      cases hnext.symm.trans hop'
      exact Nat.le_refl _
  | tighter _ ih =>
      intro least rest more whole hless hstops haccess htail
      exact ih (Nat.lt_succ_of_lt hless) (stops_of_le (Nat.le_succ _) hstops) haccess htail
  | operand _ ih =>
      intro least rest more whole _ _ haccess htail
      exact reads_binary.2 ⟨_, rest, ih haccess, htail⟩
  | sign hop _ ih =>
      intro rest haccess
      exact reads_unary.2 (.inl ⟨_, _, _, unaryOp?_eq_some_iff.2 ⟨_, _, rfl, hop⟩, ih haccess, rfl⟩)
  | bare _ ih =>
      intro rest haccess
      obtain ⟨hop, hreads⟩ := ih rest
      exact reads_unary.2 (.inr ⟨hop, hreads ((reads_accessTail_of_noAccess haccess).2 ⟨rfl, rfl⟩)⟩)
  | plain _ ih =>
      intro rest
      obtain ⟨hop, hreads⟩ := ih rest
      exact ⟨hop, fun htail => reads_access.2 ⟨_, rest, hreads, htail⟩⟩
  | name _ ih =>
      intro rest
      rw [List.append_assoc]
      obtain ⟨hop, hreads⟩ := ih _
      exact ⟨hop, fun htail => hreads (reads_accessTail_dot.2 ⟨_, _, rest, rfl, htail⟩)⟩
  | key _ _ ihobject ihkey =>
      intro rest
      rw [List.append_assoc, List.cons_append, List.append_assoc]
      obtain ⟨hop, hreads⟩ := ihobject _
      exact ⟨hop, fun htail => hreads (reads_accessTail_openBracket.2
        ⟨_, _, rest, ihkey (ends_cons (by decide)), eat?_cons _, htail⟩)⟩
  | call _ _ ihobject ihitems =>
      intro rest
      rw [List.append_assoc, List.cons_append, List.append_assoc]
      obtain ⟨hop, hreads⟩ := ihobject _
      exact ⟨hop, fun htail => hreads (reads_accessTail_openParen.2
        ⟨_, rest, _, ihitems (by decide), rfl, htail⟩)⟩
  | number => exact fun rest => ⟨rfl, reads_primary_number.2 ⟨rfl, rfl⟩⟩
  | string => exact fun rest => ⟨rfl, reads_primary_string.2 ⟨rfl, rfl⟩⟩
  | keyword hmem =>
      exact fun rest => ⟨unaryOp?_identifier (ne_typeof_of_keyword hmem),
        reads_primary_identifier.2 ⟨(ofName_eq hmem).symm, rfl⟩⟩
  | identifier hname htypeof =>
      exact fun rest => ⟨unaryOp?_identifier htypeof,
        reads_primary_identifier.2 ⟨(ofName_eq_identifier hname).symm, rfl⟩⟩
  | group _ ih =>
      intro rest
      rw [List.cons_append, List.append_assoc]
      exact ⟨rfl, reads_primary_openParen.2 ⟨_, ih (ends_cons (by decide)), eat?_cons _⟩⟩
  | array _ ih =>
      intro rest
      rw [List.cons_append, List.append_assoc]
      exact ⟨rfl, reads_primary_openBracket.2 ⟨_, ih (by decide), rfl⟩⟩
  | empty =>
      intro close i rest _
      exact reads_arguments.2 (.inl ⟨eat?_cons _, rfl⟩)
  | @listed trees tokens _ ih =>
      -- a list that is read starts with no closing sign, so that the empty list is ruled out
      intro close i rest hclose
      have hlist : Reads (argumentList close (tokens ++ ⟨.symbol close, i⟩ :: rest)) trees rest :=
        ih hclose
      obtain ⟨_, _, hitem, -⟩ := reads_argumentList.1 hlist
      exact reads_arguments.2 (.inr ⟨eat?_closing_eq_none hclose hitem, hlist⟩)
  | last _ ih =>
      intro close i rest hclose
      exact reads_argumentList.2 ⟨_, _, ih (ends_closing hclose), .inl ⟨eat?_cons _, rfl⟩⟩
  | more _ _ ihitem ihothers =>
      intro close i rest hclose
      rw [List.append_assoc, List.cons_append]
      refine reads_argumentList.2 ⟨_, _, ihitem (ends_cons (by decide)),
        .inr ⟨_, _, if_neg ?_, eat?_cons _, ihothers hclose, rfl⟩⟩
      rintro rfl
      revert hclose
      decide

/-! ## The reader and the grammar -/

theorem whole_eq_ok_iff_isExpression : whole tokens = .ok tree ↔ IsExpression tokens tree := by
  rw [whole_eq_ok_iff]
  constructor
  · rintro ⟨rest, hreads, hrest⟩
    obtain ⟨front, rfl, hfront⟩ := takes_expression hreads
    obtain rfl | ⟨i, rfl⟩ := semicolon_getD_eq_nil_iff.1 hrest
    · rw [List.append_nil]
      exact .inl hfront
    · exact .inr ⟨front, i, rfl, hfront⟩
  · rintro (h | ⟨front, i, rfl, h⟩)
    · have hreads : Reads (expression (tokens ++ [])) tree [] := h.completes ends_nil
      rw [List.append_nil] at hreads
      exact ⟨[], hreads, rfl⟩
    · exact ⟨_, h.completes (ends_cons (by decide)), semicolon_getD_eq_nil_iff.2 (.inr ⟨i, rfl⟩)⟩

theorem ofSource_eq_ok_iff {source : String} :
    Expr.ofSource source = .ok tree ↔
      ∃ tokens, Token.ofSource source = .ok tokens ∧ IsExpression tokens tree := by
  unfold Expr.ofSource
  cases Token.ofSource source with
  | error error =>
      constructor
      · rintro ⟨⟩
      · rintro ⟨_, ⟨⟩, -⟩
  | ok tokens =>
      constructor
      · intro h
        exact ⟨tokens, rfl, whole_eq_ok_iff_isExpression.1 h⟩
      · rintro ⟨_, ⟨⟩, h⟩
        exact whole_eq_ok_iff_isExpression.2 h

/-- The reader accepts exactly the expressions of the grammar, with their trees, and so it is with
sources once they are tokens. An expression has one tree. In it the operands of an operator bind
as the grouping wants it: the left one no looser than the operator, and the right one tighter. As
an operand is an expression as well, this holds at every operator of a tree. -/
theorem whole_accepts_grammar :
    (∀ (tokens : List Token) (tree : Expr), whole tokens = .ok tree ↔ IsExpression tokens tree) ∧
    (∀ (source : String) (tree : Expr), Expr.ofSource source = .ok tree ↔
      ∃ tokens, Token.ofSource source = .ok tokens ∧ IsExpression tokens tree) ∧
    (∀ (tokens : List Token) (tree tree' : Expr),
      IsExpression tokens tree → IsExpression tokens tree' → tree = tree') ∧
    ∀ (op : BinaryOp) (left right : Expr) (tokens : List Token),
      Derives (.expression (.binary op left right)) tokens →
        Grouped (.binary op left right) tokens ∨
          ∃ before sign i behind, tokens = before ++ ⟨.symbol sign, i⟩ :: behind ∧
            (sign, op) ∈ operators op.precedence ∧ Binds op.precedence left before ∧
            Binds (op.precedence + 1) right behind := by
  refine ⟨fun _ _ => whole_eq_ok_iff_isExpression, fun _ _ => ofSource_eq_ok_iff, ?_,
    fun _ _ _ _ => Derives.operands⟩
  intro tokens tree tree' h h'
  have htree := whole_eq_ok_iff_isExpression.2 h
  have htree' := whole_eq_ok_iff_isExpression.2 h'
  cases htree.symm.trans htree'
  rfl

/-- Two subtractions, and a semicolon behind them, are the difference of a difference. -/
theorem whole_subtractions :
    whole [⟨.identifier "a", 0⟩, ⟨.symbol .minus, 2⟩, ⟨.identifier "b", 4⟩, ⟨.symbol .minus, 6⟩,
        ⟨.identifier "c", 8⟩, ⟨.symbol .semicolon, 9⟩] =
      .ok (.binary .subtract (.binary .subtract (.identifier "a") (.identifier "b"))
        (.identifier "c")) := by
  have hname {name : String} {i : Nat} (hkeyword : name ∉ keywords.map Prod.fst)
      (htypeof : name ≠ "typeof") : Derives (.level 7 (.identifier name)) [⟨.identifier name, i⟩] :=
    .operand (.bare (.plain (.identifier hkeyword htypeof)))
  have hleft : Derives (.level 5 (.binary .subtract (.identifier "a") (.identifier "b")))
      ([⟨.identifier "a", 0⟩] ++ ⟨.symbol .minus, 2⟩ :: [⟨.identifier "b", 4⟩]) :=
    .operator (by decide) ((hname (by decide) (by decide)).level_of_le (by decide))
      ((hname (by decide) (by decide)).level_of_le (by decide))
  have hchain : Derives (.level 5 (.binary .subtract
      (.binary .subtract (.identifier "a") (.identifier "b")) (.identifier "c")))
      ([⟨.identifier "a", 0⟩, ⟨.symbol .minus, 2⟩, ⟨.identifier "b", 4⟩] ++
        ⟨.symbol .minus, 6⟩ :: [⟨.identifier "c", 8⟩]) :=
    .operator (by decide) hleft ((hname (by decide) (by decide)).level_of_le (by decide))
  exact (whole_accepts_grammar.1 _ _).2 (.inr ⟨_, 9, rfl, .chain (hchain.level_of_le (by decide))⟩)

end HttpDoctest.Grammar
