import HttpDoctest.Expression.Grammar

set_option autoImplicit false

/-! # What the readers of expressions do

A reader of tokens gives a value and leaves the rest, or fails. For each reader this module says
once when it succeeds, with which value and which rest (`Reads`), in terms of the readers that it
calls. The bounds that readings carry for the sake of termination do not appear in these laws, so
that no proof about the grammar has to open a reader again.
-/

namespace HttpDoctest.Grammar

section Reads

variable {α β : Type} {m n : Nat}

/-- Whether a reader gave `value` and left `rest`. -/
def Reads (result : Result α n) (value : α) (rest : List Token) : Prop :=
  ∃ h, result = .ok ⟨value, rest, h⟩

theorem Reads.length_lt {result : Result α n} {value : α} {rest : List Token}
    (h : Reads result value rest) : rest.length < n :=
  h.1

@[simp] theorem reads_ok {reading : Reading Token α n} {value : α} {rest : List Token} :
    Reads (.ok reading) value rest ↔ value = reading.value ∧ rest = reading.rest := by
  constructor
  · rintro ⟨_, heq⟩
    cases heq
    exact ⟨rfl, rfl⟩
  · rintro ⟨rfl, rfl⟩
    exact ⟨reading.rest_lt, rfl⟩

@[simp] theorem reads_pure {reading : Reading Token α n} {value : α} {rest : List Token} :
    Reads (pure reading) value rest ↔ value = reading.value ∧ rest = reading.rest :=
  reads_ok

@[simp] theorem not_reads_error {error : ExprError} {value : α} {rest : List Token} :
    ¬Reads (.error error : Result α n) value rest :=
  fun h => nomatch h.2

/-- What follows a reader goes on with its value behind what it read. -/
theorem reads_bind {first : Result β m} {next : Reading Token β m → Result α n} {value : α}
    {rest : List Token} :
    Reads (first >>= next) value rest ↔
      ∃ found left, ∃ h : Reads first found left,
        Reads (next ⟨found, left, h.length_lt⟩) value rest := by
  constructor
  · intro h
    cases first with
    | error error => exact absurd h not_reads_error
    | ok reading => exact ⟨reading.value, reading.rest, ⟨reading.rest_lt, rfl⟩, h⟩
  · rintro ⟨found, left, ⟨hlt, rfl⟩, h⟩
    exact h

/-- A reading under a larger bound has the same value and the same rest. -/
theorem reads_bind_weaken {first : Result α m} {hle : Reading Token α m → m ≤ n} {value : α}
    {rest : List Token} :
    Reads (first >>= fun reading => pure (reading.weaken (hle reading)) : Result α n) value rest ↔
      Reads first value rest := by
  rw [reads_bind]
  constructor
  · rintro ⟨found, left, h, hpure⟩
    obtain ⟨rfl, rfl⟩ := reads_pure.1 hpure
    exact h
  · intro h
    exact ⟨value, rest, h, reads_pure.2 ⟨rfl, rfl⟩⟩

end Reads

/-! ## Signs -/

theorem eat?_eq_some_iff {sign : Symbol} {tokens rest : List Token} :
    eat? sign tokens = some rest ↔ ∃ offset, tokens = ⟨.symbol sign, offset⟩ :: rest := by
  unfold eat?
  split
  · next s offset more =>
    split
    · next hsign =>
      subst hsign
      constructor
      · rintro ⟨⟩
        exact ⟨offset, rfl⟩
      · rintro ⟨_, ⟨⟩⟩
        rfl
    · next hsign =>
      constructor
      · rintro ⟨⟩
      · rintro ⟨_, ⟨⟩⟩
        exact absurd rfl hsign
  · next hnone =>
    constructor
    · rintro ⟨⟩
    · rintro ⟨offset, rfl⟩
      exact absurd rfl (hnone sign offset rest)

theorem eat?_cases (sign : Symbol) (tokens : List Token) :
    eat? sign tokens = none ∨ ∃ offset rest, tokens = ⟨.symbol sign, offset⟩ :: rest := by
  cases heat : eat? sign tokens with
  | none => exact .inl rfl
  | some rest =>
      obtain ⟨offset, htokens⟩ := eat?_eq_some_iff.1 heat
      exact .inr ⟨offset, rest, htokens⟩

theorem reads_expect {sign : Symbol} {tokens rest : List Token} {found : Unit} :
    Reads (expect sign tokens) found rest ↔ eat? sign tokens = some rest := by
  unfold expect
  split
  · next left hleft =>
    rw [reads_ok]
    constructor
    · rintro ⟨-, rfl⟩
      exact hleft
    · intro h
      exact ⟨rfl, Option.some.inj (h.symm.trans hleft)⟩
  · next hnone =>
    constructor
    · intro h
      exact absurd h not_reads_error
    · intro h
      cases hnone.symm.trans h

theorem binaryOp?_eq_some_iff {op : BinaryOp} {tokens rest : List Token} :
    binaryOp? tokens = some (op, rest) ↔
      ∃ sign offset, tokens = ⟨.symbol sign, offset⟩ :: rest ∧
        BinaryOp.ofSymbol? sign = some op := by
  unfold binaryOp?
  split
  · next sign offset more =>
    constructor
    · intro h
      obtain ⟨op', hop, heq⟩ := Option.map_eq_some_iff.1 h
      cases heq
      exact ⟨sign, offset, rfl, hop⟩
    · rintro ⟨_, _, ⟨⟩, hop⟩
      rw [hop]
      rfl
  · next hnone =>
    constructor
    · rintro ⟨⟩
    · rintro ⟨sign, offset, rfl, -⟩
      exact absurd rfl (hnone sign offset rest)

/-! ## Chains of operators -/

section Readers

variable {tokens rest : List Token} {tree : Expr}

theorem reads_expression :
    Reads (expression tokens) tree rest ↔
      ∃ test left, Reads (binary 0 tokens) test left ∧
        ((eat? .question left = none ∧ tree = test ∧ rest = left) ∨
          ∃ more consequent behind more' alternate, eat? .question left = some more ∧
            Reads (expression more) consequent behind ∧ eat? .colon behind = some more' ∧
            Reads (expression more') alternate rest ∧
            tree = .conditional test consequent alternate) := by
  rw [expression, reads_bind]
  constructor
  · rintro ⟨test, left, htest, h⟩
    refine ⟨test, left, htest, ?_⟩
    dsimp only at h
    split at h
    · next hnone => exact .inl ⟨hnone, reads_pure.1 h⟩
    · next more hmore =>
      obtain ⟨consequent, behind, hconsequent, h⟩ := reads_bind.1 h
      obtain ⟨⟨⟩, more', hcolon, h⟩ := reads_bind.1 h
      obtain ⟨alternate, left', halternate, h⟩ := reads_bind.1 h
      obtain ⟨rfl, rfl⟩ := reads_pure.1 h
      exact .inr ⟨more, consequent, behind, more', alternate, hmore, hconsequent,
        reads_expect.1 hcolon, halternate, rfl⟩
  · rintro ⟨test, left, htest, h⟩
    refine ⟨test, left, htest, ?_⟩
    dsimp only
    rcases h with ⟨hnone, rfl, rfl⟩ |
      ⟨more, consequent, behind, more', alternate, hmore, hconsequent, hcolon, halternate, rfl⟩
    · split
      · exact reads_pure.2 ⟨rfl, rfl⟩
      · next heq =>
        cases hnone.symm.trans heq
    · split
      · next heq =>
        cases hmore.symm.trans heq
      · next heq =>
        cases hmore.symm.trans heq
        exact reads_bind.2 ⟨consequent, behind, hconsequent,
          reads_bind.2 ⟨(), more', reads_expect.2 hcolon,
            reads_bind.2 ⟨alternate, rest, halternate, reads_pure.2 ⟨rfl, rfl⟩⟩⟩⟩

theorem reads_binary {least : Nat} :
    Reads (binary least tokens) tree rest ↔
      ∃ left behind, Reads (unary tokens) left behind ∧
        Reads (binaryTail least left behind) tree rest := by
  rw [binary, reads_bind]
  constructor
  · rintro ⟨left, behind, hleft, h⟩
    exact ⟨left, behind, hleft, reads_bind_weaken.1 h⟩
  · rintro ⟨left, behind, hleft, htail⟩
    exact ⟨left, behind, hleft, reads_bind_weaken.2 htail⟩

theorem reads_binaryTail {least : Nat} {left : Expr} :
    Reads (binaryTail least left tokens) tree rest ↔
      (∃ op more right behind, binaryOp? tokens = some (op, more) ∧ least < op.precedence ∧
        Reads (binary op.precedence more) right behind ∧
        Reads (binaryTail least (.binary op left right) behind) tree rest) ∨
      ((∀ op more, binaryOp? tokens = some (op, more) → op.precedence ≤ least) ∧
        tree = left ∧ rest = tokens) := by
  rw [binaryTail]
  split
  · next op more hop =>
    by_cases hless : least < op.precedence
    · rw [if_pos hless]
      dsimp only
      rw [reads_bind]
      constructor
      · rintro ⟨right, behind, hright, h⟩
        exact .inl ⟨op, more, right, behind, hop, hless, hright, reads_bind_weaken.1 h⟩
      · rintro (⟨op', more', right, behind, hop', -, hright, htail⟩ | ⟨hstop, -⟩)
        · cases hop.symm.trans hop'
          exact ⟨right, behind, hright, reads_bind_weaken.2 htail⟩
        · exact absurd (hstop op more hop) (Nat.not_le.2 hless)
    · rw [if_neg hless, reads_ok]
      constructor
      · rintro ⟨rfl, rfl⟩
        refine .inr ⟨?_, rfl, rfl⟩
        rintro op' more' hop'
        cases hop.symm.trans hop'
        exact Nat.not_lt.1 hless
      · rintro (⟨op', more', right, behind, hop', hless', -⟩ | ⟨-, h⟩)
        · cases hop.symm.trans hop'
          exact absurd hless' hless
        · exact h
  · next hnone =>
    rw [reads_ok]
    constructor
    · rintro ⟨rfl, rfl⟩
      refine .inr ⟨?_, rfl, rfl⟩
      rintro op' more' hop'
      cases hnone.symm.trans hop'
    · rintro (⟨op', more', right, behind, hop', -⟩ | ⟨-, h⟩)
      · cases hnone.symm.trans hop'
      · exact h

theorem reads_unary :
    Reads (unary tokens) tree rest ↔
      (∃ op more operand, unaryOp? tokens = some (op, more) ∧ Reads (unary more) operand rest ∧
        tree = .unary op operand) ∨
      (unaryOp? tokens = none ∧ Reads (access tokens) tree rest) := by
  rw [unary]
  split
  · next op more hop =>
    dsimp only
    rw [reads_bind]
    constructor
    · rintro ⟨operand, behind, hoperand, h⟩
      obtain ⟨rfl, rfl⟩ := reads_pure.1 h
      exact .inl ⟨op, more, operand, hop, hoperand, rfl⟩
    · rintro (⟨op', more', operand, hop', hoperand, rfl⟩ | ⟨hnone, -⟩)
      · cases hop.symm.trans hop'
        exact ⟨operand, rest, hoperand, reads_pure.2 ⟨rfl, rfl⟩⟩
      · cases hop.symm.trans hnone
  · next hnone =>
    constructor
    · intro h
      exact .inr ⟨hnone, h⟩
    · rintro (⟨op', more', operand, hop', -⟩ | ⟨-, h⟩)
      · cases hnone.symm.trans hop'
      · exact h

/-! ## Accesses -/

theorem reads_access :
    Reads (access tokens) tree rest ↔
      ∃ object behind, Reads (primary tokens) object behind ∧
        Reads (accessTail object behind) tree rest := by
  rw [access, reads_bind]
  constructor
  · rintro ⟨object, behind, hobject, h⟩
    exact ⟨object, behind, hobject, reads_bind_weaken.1 h⟩
  · rintro ⟨object, behind, hobject, htail⟩
    exact ⟨object, behind, hobject, reads_bind_weaken.2 htail⟩

section AccessTail

variable {object : Expr} {offset : Nat}

theorem reads_accessTail_dot :
    Reads (accessTail object (⟨.symbol .dot, offset⟩ :: tokens)) tree rest ↔
      ∃ name offset' more, tokens = ⟨.identifier name, offset'⟩ :: more ∧
        Reads (accessTail (.member object (.literal (.string name))) more) tree rest := by
  cases tokens with
  | nil =>
      rw [accessTail]
      simp
  | cons token more =>
      obtain ⟨kind, offset'⟩ := token
      cases kind with
      | identifier name =>
          rw [accessTail, reads_bind_weaken]
          constructor
          · intro htail
            exact ⟨name, offset', more, rfl, htail⟩
          · rintro ⟨_, _, _, ⟨⟩, htail⟩
            exact htail
      | number x =>
          rw [accessTail]
          · simp
          · simp
      | string s =>
          rw [accessTail]
          · simp
          · simp
      | symbol sign =>
          rw [accessTail]
          · simp
          · simp

theorem reads_accessTail_openBracket :
    Reads (accessTail object (⟨.symbol .openBracket, offset⟩ :: tokens)) tree rest ↔
      ∃ key behind more, Reads (expression tokens) key behind ∧
        eat? .closeBracket behind = some more ∧
        Reads (accessTail (.member object key) more) tree rest := by
  rw [accessTail, reads_bind]
  constructor
  · rintro ⟨key, behind, hkey, h⟩
    obtain ⟨⟨⟩, more, hclose, h⟩ := reads_bind.1 h
    exact ⟨key, behind, more, hkey, reads_expect.1 hclose, reads_bind_weaken.1 h⟩
  · rintro ⟨key, behind, more, hkey, hclose, htail⟩
    exact ⟨key, behind, hkey,
      reads_bind.2 ⟨(), more, reads_expect.2 hclose, reads_bind_weaken.2 htail⟩⟩

theorem reads_accessTail_openParen :
    Reads (accessTail object (⟨.symbol .openParen, offset⟩ :: tokens)) tree rest ↔
      ∃ items behind call, Reads (arguments .closeParen tokens) items behind ∧
        callOf? items object = some call ∧ Reads (accessTail call behind) tree rest := by
  rw [accessTail, reads_bind]
  constructor
  · rintro ⟨items, behind, hitems, h⟩
    dsimp only at h
    split at h
    · next call hcall =>
      exact ⟨items, behind, call, hitems, hcall, reads_bind_weaken.1 h⟩
    · exact absurd h not_reads_error
  · rintro ⟨items, behind, call, hitems, hcall, htail⟩
    refine ⟨items, behind, hitems, ?_⟩
    dsimp only
    rw [hcall]
    exact reads_bind_weaken.2 htail

/-- Tokens that do not go on with an access. -/
structure NoAccess (tokens : List Token) : Prop where
  dot : eat? .dot tokens = none
  openBracket : eat? .openBracket tokens = none
  openParen : eat? .openParen tokens = none

theorem reads_accessTail_of_noAccess (h : NoAccess tokens) :
    Reads (accessTail object tokens) tree rest ↔ tree = object ∧ rest = tokens := by
  have hsign {sign : Symbol} {offset : Nat} {more : List Token}
      (heq : tokens = ⟨.symbol sign, offset⟩ :: more) : eat? sign tokens = some more :=
    eat?_eq_some_iff.2 ⟨offset, heq⟩
  rw [accessTail.eq_def]
  split
  case h_6 => exact reads_ok
  case h_1 => cases h.dot.symm.trans (hsign rfl)
  case h_2 => cases h.dot.symm.trans (hsign rfl)
  case h_3 => cases h.dot.symm.trans (hsign rfl)
  case h_4 => cases h.openBracket.symm.trans (hsign rfl)
  case h_5 => cases h.openParen.symm.trans (hsign rfl)

end AccessTail

/-! ## Lists -/

section Arguments

variable {close : Symbol} {items : List Expr}

theorem reads_arguments :
    Reads (arguments close tokens) items rest ↔
      (eat? close tokens = some rest ∧ items = []) ∨
      (eat? close tokens = none ∧ Reads (argumentList close tokens) items rest) := by
  rw [arguments]
  split
  · next more hmore =>
    rw [reads_ok]
    constructor
    · rintro ⟨rfl, rfl⟩
      exact .inl ⟨hmore, rfl⟩
    · rintro (⟨heq, rfl⟩ | ⟨heq, -⟩)
      · cases hmore.symm.trans heq
        exact ⟨rfl, rfl⟩
      · cases hmore.symm.trans heq
  · next hnone =>
    constructor
    · intro h
      exact .inr ⟨hnone, h⟩
    · rintro (⟨heq, -⟩ | ⟨-, h⟩)
      · cases hnone.symm.trans heq
      · exact h

theorem reads_argumentList :
    Reads (argumentList close tokens) items rest ↔
      ∃ item behind, Reads (expression tokens) item behind ∧
        ((eat? close behind = some rest ∧ items = [item]) ∨
          ∃ more others, eat? close behind = none ∧ eat? .comma behind = some more ∧
            Reads (argumentList close more) others rest ∧ items = item :: others) := by
  rw [argumentList, reads_bind]
  constructor
  · rintro ⟨item, behind, hitem, h⟩
    refine ⟨item, behind, hitem, ?_⟩
    dsimp only at h
    split at h
    · next more hmore =>
      obtain ⟨rfl, rfl⟩ := reads_pure.1 h
      exact .inl ⟨hmore, rfl⟩
    · next hnone =>
      obtain ⟨⟨⟩, more, hcomma, h⟩ := reads_bind.1 h
      obtain ⟨others, rest, hothers, h⟩ := reads_bind.1 h
      obtain ⟨rfl, rfl⟩ := reads_pure.1 h
      exact .inr ⟨more, others, hnone, reads_expect.1 hcomma, hothers, rfl⟩
  · rintro ⟨item, behind, hitem, h⟩
    refine ⟨item, behind, hitem, ?_⟩
    dsimp only
    rcases h with ⟨hclose, rfl⟩ | ⟨more, others, hnone, hcomma, hothers, rfl⟩
    · split
      · next heq =>
        cases hclose.symm.trans heq
        exact reads_pure.2 ⟨rfl, rfl⟩
      · next heq =>
        cases hclose.symm.trans heq
    · split
      · next heq =>
        cases hnone.symm.trans heq
      · exact reads_bind.2 ⟨(), more, reads_expect.2 hcomma,
          reads_bind.2 ⟨others, rest, hothers, reads_pure.2 ⟨rfl, rfl⟩⟩⟩

end Arguments

/-! ## Primary expressions -/

section Primary

variable {offset : Nat}

theorem reads_primary_number {x : Float} :
    Reads (primary (⟨.number x, offset⟩ :: tokens)) tree rest ↔
      tree = .literal (.number x) ∧ rest = tokens := by
  rw [primary, reads_ok]

theorem reads_primary_string {s : String} :
    Reads (primary (⟨.string s, offset⟩ :: tokens)) tree rest ↔
      tree = .literal (.string s) ∧ rest = tokens := by
  rw [primary, reads_ok]

theorem reads_primary_identifier {name : String} :
    Reads (primary (⟨.identifier name, offset⟩ :: tokens)) tree rest ↔
      tree = .ofName name ∧ rest = tokens := by
  rw [primary, reads_ok]

theorem reads_primary_openParen :
    Reads (primary (⟨.symbol .openParen, offset⟩ :: tokens)) tree rest ↔
      ∃ behind, Reads (expression tokens) tree behind ∧
        eat? .closeParen behind = some rest := by
  rw [primary, reads_bind]
  constructor
  · rintro ⟨tree, behind, htree, h⟩
    obtain ⟨⟨⟩, rest, hclose, h⟩ := reads_bind.1 h
    obtain ⟨rfl, rfl⟩ := reads_pure.1 h
    exact ⟨behind, htree, reads_expect.1 hclose⟩
  · rintro ⟨behind, htree, hclose⟩
    exact ⟨tree, behind, htree,
      reads_bind.2 ⟨(), rest, reads_expect.2 hclose, reads_pure.2 ⟨rfl, rfl⟩⟩⟩

theorem reads_primary_openBracket :
    Reads (primary (⟨.symbol .openBracket, offset⟩ :: tokens)) tree rest ↔
      ∃ items, Reads (arguments .closeBracket tokens) items rest ∧ tree = .array items := by
  rw [primary, reads_bind]
  constructor
  · rintro ⟨items, rest, hitems, h⟩
    obtain ⟨rfl, rfl⟩ := reads_pure.1 h
    exact ⟨items, hitems, rfl⟩
  · rintro ⟨items, hitems, rfl⟩
    exact ⟨items, rest, hitems, reads_pure.2 ⟨rfl, rfl⟩⟩

theorem not_reads_primary_nil : ¬Reads (primary []) tree rest := by
  rw [primary]
  exact not_reads_error

/-- The only signs that a primary expression starts with are the opening ones. -/
theorem not_reads_primary_symbol {sign : Symbol} (hparen : sign ≠ .openParen)
    (hbracket : sign ≠ .openBracket) :
    ¬Reads (primary (⟨.symbol sign, offset⟩ :: tokens)) tree rest := by
  rw [primary]
  · exact not_reads_error
  · exact hparen
  · exact hbracket

end Primary

/-! ## Whole expressions -/

theorem whole_eq_ok_iff :
    whole tokens = .ok tree ↔
      ∃ rest, Reads (expression tokens) tree rest ∧ (eat? .semicolon rest).getD rest = [] := by
  unfold whole
  cases hresult : expression tokens with
  | error error =>
      constructor
      · rintro ⟨⟩
      · rintro ⟨_, h, -⟩
        exact absurd h not_reads_error
  | ok reading =>
      constructor
      · intro h
        dsimp only [bind, Except.bind] at h
        split at h
        · next hrest =>
          cases h
          exact ⟨reading.rest, reads_ok.2 ⟨rfl, rfl⟩, hrest⟩
        · cases h
      · rintro ⟨_, h, hrest⟩
        obtain ⟨rfl, rfl⟩ := reads_ok.1 h
        dsimp only [bind, Except.bind]
        rw [hrest]
        rfl

theorem semicolon_getD_eq_nil_iff :
    (eat? .semicolon rest).getD rest = [] ↔
      rest = [] ∨ ∃ i, rest = [⟨.symbol .semicolon, i⟩] := by
  cases heat : eat? .semicolon rest with
  | none =>
      constructor
      · exact .inl
      · rintro (rfl | ⟨i, rfl⟩)
        · rfl
        · cases heat
  | some more =>
      obtain ⟨i, rfl⟩ := eat?_eq_some_iff.1 heat
      constructor
      · rintro rfl
        exact .inr ⟨i, rfl⟩
      · rintro (h | ⟨_, h⟩)
        · cases h
        · cases h
          rfl

end Readers

end HttpDoctest.Grammar
