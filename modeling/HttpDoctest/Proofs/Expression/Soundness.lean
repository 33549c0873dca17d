import HttpDoctest.Proofs.Expression.Productions
import HttpDoctest.Proofs.Expression.Readers

set_option autoImplicit false

/-! # What is read is a phrase

Each reader takes tokens off the front that are a phrase of its kind with the tree that it gives
(`Takes`). The readers call each other on fewer tokens only, so that all laws are proved for
tokens in front of which those on expressions hold (`Sound`), and then those on expressions by
induction on the number of tokens (`takes_expression`).
-/

namespace HttpDoctest.Grammar

/-- Whether a phrase stands in front of `rest`. -/
def Takes (phrase : Phrase) (tokens rest : List Token) : Prop :=
  ∃ front, tokens = front ++ rest ∧ Derives phrase front

/-- Whether a phrase and a closing sign stand in front of `rest`. -/
def Encloses (phrase : Phrase) (close : Symbol) (tokens rest : List Token) : Prop :=
  ∃ inner i, tokens = inner ++ ⟨.symbol close, i⟩ :: rest ∧ Derives phrase inner

/-- Whether what is read as an expression from fewer than `n` tokens is one. -/
def Sound (n : Nat) : Prop :=
  ∀ {tokens : List Token}, tokens.length < n → ∀ {tree : Expr} {rest : List Token},
    Reads (expression tokens) tree rest → Takes (.expression tree) tokens rest

section Sound

variable {n : Nat} {tokens rest : List Token} {tree : Expr}

theorem Sound.encloses (hsound : Sound n) (hlt : tokens.length < n) {behind : List Token}
    {close : Symbol} (htree : Reads (expression tokens) tree behind)
    (hclose : eat? close behind = some rest) : Encloses (.expression tree) close tokens rest := by
  obtain ⟨front, rfl, hfront⟩ := hsound hlt htree
  obtain ⟨i, rfl⟩ := eat?_eq_some_iff.1 hclose
  exact ⟨front, i, rfl, hfront⟩

/-! ## Lists -/

theorem encloses_argumentList (hsound : Sound n) (hlt : tokens.length < n) {close : Symbol}
    {items : List Expr} (h : Reads (argumentList close tokens) items rest) :
    Encloses (.list items) close tokens rest := by
  induction hlength : tokens.length using Nat.strongRecOn generalizing tokens items with
  | ind k ih =>
  obtain ⟨item, behind, hitem, ⟨hclose, rfl⟩ | ⟨more, others, -, hcomma, hothers, rfl⟩⟩ :=
    reads_argumentList.1 h
  · obtain ⟨inner, i, htokens, hinner⟩ := hsound.encloses hlt hitem hclose
    exact ⟨inner, i, htokens, .last hinner⟩
  · -- the comma is taken off, so that the rest of the list is read from fewer tokens
    obtain ⟨front, i, rfl, hfront⟩ := hsound.encloses hlt hitem hcomma
    have hmore : more.length < k := by
      rw [← hlength]
      simp only [List.length_append, List.length_cons]
      omega
    obtain ⟨inner, j, rfl, hinner⟩ := ih more.length hmore (by omega) hothers rfl
    exact ⟨front ++ ⟨.symbol .comma, i⟩ :: inner, j, by simp, .more hfront hinner⟩

theorem encloses_arguments (hsound : Sound n) (hlt : tokens.length < n) {close : Symbol}
    {items : List Expr} (h : Reads (arguments close tokens) items rest) :
    Encloses (.items items) close tokens rest := by
  obtain ⟨hclose, rfl⟩ | ⟨-, h⟩ := reads_arguments.1 h
  · obtain ⟨i, rfl⟩ := eat?_eq_some_iff.1 hclose
    exact ⟨[], i, rfl, .empty⟩
  · obtain ⟨inner, i, htokens, hinner⟩ := encloses_argumentList hsound hlt h
    exact ⟨inner, i, htokens, .listed hinner⟩

/-! ## Accesses -/

theorem derives_ofName {name : String} (h : name ≠ "typeof") (i : Nat) :
    Derives (.primary (.ofName name)) [⟨.identifier name, i⟩] := by
  by_cases hkeyword : name ∈ keywords.map Prod.fst
  · obtain ⟨⟨_, tree⟩, hmem, rfl⟩ := List.mem_map.1 hkeyword
    rw [ofName_eq hmem]
    exact .keyword hmem
  · rw [ofName_eq_identifier hkeyword]
    exact .identifier hkeyword h

theorem takes_primary (hsound : Sound n) (hle : tokens.length ≤ n)
    (hunary : unaryOp? tokens = none) (h : Reads (primary tokens) tree rest) :
    Takes (.primary tree) tokens rest := by
  cases tokens with
  | nil => exact absurd h not_reads_primary_nil
  | cons token more =>
      obtain ⟨kind, i⟩ := token
      cases kind with
      | number x =>
          obtain ⟨rfl, rfl⟩ := reads_primary_number.1 h
          exact ⟨[_], rfl, .number⟩
      | string s =>
          obtain ⟨rfl, rfl⟩ := reads_primary_string.1 h
          exact ⟨[_], rfl, .string⟩
      | identifier name =>
          obtain ⟨rfl, rfl⟩ := reads_primary_identifier.1 h
          -- `typeof` in front would have been taken for an operator before
          refine ⟨[_], rfl, derives_ofName ?_ i⟩
          rintro rfl
          cases hunary
      | symbol sign =>
          by_cases hparen : sign = .openParen
          · subst hparen
            obtain ⟨behind, htree, hclose⟩ := reads_primary_openParen.1 h
            obtain ⟨inner, j, rfl, hinner⟩ := hsound.encloses hle htree hclose
            exact ⟨⟨.symbol .openParen, i⟩ :: (inner ++ [⟨.symbol .closeParen, j⟩]), by simp,
              .group hinner⟩
          by_cases hbracket : sign = .openBracket
          · subst hbracket
            obtain ⟨items, hitems, rfl⟩ := reads_primary_openBracket.1 h
            obtain ⟨inner, j, rfl, hinner⟩ := encloses_arguments hsound hle hitems
            exact ⟨⟨.symbol .openBracket, i⟩ :: (inner ++ [⟨.symbol .closeBracket, j⟩]), by simp,
              .array hinner⟩
          · exact absurd h (not_reads_primary_symbol hparen hbracket)

theorem callOf?_eq_some {items : List Expr} {object call : Expr}
    (h : callOf? items object = some call) :
    ∃ owner method, object = .member owner (.literal (.string method)) ∧
      call = .call owner method items := by
  unfold callOf? at h
  split at h
  · next owner method =>
    cases h
    exact ⟨owner, method, rfl, rfl⟩
  · cases h

theorem noAccess_or (tokens : List Token) :
    NoAccess tokens ∨ ∃ sign i more, tokens = ⟨.symbol sign, i⟩ :: more ∧
      (sign = .dot ∨ sign = .openBracket ∨ sign = .openParen) := by
  rcases eat?_cases .dot tokens with hdot | ⟨i, more, htokens⟩
  · rcases eat?_cases .openBracket tokens with hbracket | ⟨i, more, htokens⟩
    · rcases eat?_cases .openParen tokens with hparen | ⟨i, more, htokens⟩
      · exact .inl ⟨hdot, hbracket, hparen⟩
      · exact .inr ⟨_, i, more, htokens, .inr (.inr rfl)⟩
    · exact .inr ⟨_, i, more, htokens, .inr (.inl rfl)⟩
  · exact .inr ⟨_, i, more, htokens, .inl rfl⟩

/-- The induction is on the tokens behind the object. What was read of it stands in front, as
`before`, and grows by one access with each step. -/
theorem takes_accessTail (hsound : Sound n) (hle : tokens.length ≤ n) {object : Expr}
    {before : List Token} (hobject : Derives (.access object) before)
    (h : Reads (accessTail object tokens) tree rest) :
    Takes (.access tree) (before ++ tokens) rest := by
  induction hlength : tokens.length using Nat.strongRecOn
    generalizing tokens object before with
  | ind k ih =>
  obtain hnone | ⟨sign, i, more, rfl, rfl | rfl | rfl⟩ := noAccess_or tokens
  · obtain ⟨rfl, rfl⟩ := (reads_accessTail_of_noAccess hnone).1 h
    exact ⟨before, rfl, hobject⟩
  · obtain ⟨name, j, more, rfl, htail⟩ := reads_accessTail_dot.1 h
    rw [List.length_cons, List.length_cons] at hle hlength
    have := ih more.length (by omega) (by omega) (.name (i := i) (j := j) hobject) htail rfl
    rwa [List.append_assoc] at this
  · obtain ⟨key, behind, left, hkey, hclose, htail⟩ := reads_accessTail_openBracket.1 h
    obtain ⟨inner, j, rfl, hinner⟩ := hsound.encloses hle hkey hclose
    rw [List.length_cons, List.length_append, List.length_cons] at hle hlength
    have := ih left.length (by omega) (by omega) (.key (i := i) (j := j) hobject hinner) htail rfl
    rwa [List.append_assoc, List.cons_append, List.append_assoc] at this
  · obtain ⟨items, left, call, hitems, hcall, htail⟩ := reads_accessTail_openParen.1 h
    obtain ⟨inner, j, rfl, hinner⟩ := encloses_arguments hsound hle hitems
    obtain ⟨owner, method, rfl, rfl⟩ := callOf?_eq_some hcall
    rw [List.length_cons, List.length_append, List.length_cons] at hle hlength
    have := ih left.length (by omega) (by omega) (.call (i := i) (j := j) hobject hinner) htail rfl
    rwa [List.append_assoc, List.cons_append, List.append_assoc] at this

theorem takes_access (hsound : Sound n) (hle : tokens.length ≤ n)
    (hunary : unaryOp? tokens = none) (h : Reads (access tokens) tree rest) :
    Takes (.access tree) tokens rest := by
  obtain ⟨object, behind, hobject, htail⟩ := reads_access.1 h
  have hlt := hobject.length_lt
  obtain ⟨front, rfl, hfront⟩ := takes_primary hsound hle hunary hobject
  exact takes_accessTail hsound (by omega) (.plain hfront) htail

/-! ## Operators -/

theorem takes_unary (hsound : Sound n) (hle : tokens.length ≤ n)
    (h : Reads (unary tokens) tree rest) : Takes (.unary tree) tokens rest := by
  induction hlength : tokens.length using Nat.strongRecOn generalizing tokens tree with
  | ind k ih =>
  obtain ⟨op, more, operand, hop, hoperand, rfl⟩ | ⟨hnone, h⟩ := reads_unary.1 h
  · obtain ⟨kind, i, rfl, hsign⟩ := unaryOp?_eq_some_iff.1 hop
    rw [List.length_cons] at hle hlength
    obtain ⟨front, rfl, hfront⟩ := ih more.length (by omega) (by omega) hoperand rfl
    exact ⟨⟨kind, i⟩ :: front, rfl, .sign hsign hfront⟩
  · obtain ⟨front, htokens, hfront⟩ := takes_access hsound hle hnone h
    exact ⟨front, htokens, .bare hfront⟩

/-- Tokens that do not go on with an operator that binds tighter than `least`. -/
def Stops (least : Nat) (tokens : List Token) : Prop :=
  ∀ op more, binaryOp? tokens = some (op, more) → op.precedence ≤ least

theorem stops_six (tokens : List Token) : Stops 6 tokens :=
  fun op _ _ => Nat.le_of_lt_succ op.precedence_lt

theorem stops_of_le {m n : Nat} (hle : m ≤ n) (h : Stops m tokens) : Stops n tokens :=
  fun op more hop => Nat.le_trans (h op more hop) hle

/-- What a chain takes: a phrase of the level above `least`, up to an operator that binds no
tighter than `least`. -/
def Chained (least : Nat) (tree : Expr) (tokens rest : List Token) : Prop :=
  Takes (.level (least + 1) tree) tokens rest ∧ Stops least rest

/-- Whether a chain is sound behind every left operand that leaves no tighter operator behind. -/
def SoundTail (tokens : List Token) : Prop :=
  ∀ {least m : Nat} {left tree : Expr} {before rest : List Token}, least < m →
    Derives (.level m left) before → Stops m tokens →
    Reads (binaryTail least left tokens) tree rest → Chained least tree (before ++ tokens) rest

theorem chained_binary (hsound : Sound n) (hle : tokens.length ≤ n)
    (htail : ∀ {behind : List Token}, behind.length < tokens.length → SoundTail behind)
    {least : Nat} (hleast : least ≤ 6) (h : Reads (binary least tokens) tree rest) :
    Chained least tree tokens rest := by
  obtain ⟨left, behind, hleft, hchain⟩ := reads_binary.1 h
  have hlt := hleft.length_lt
  obtain ⟨front, rfl, hfront⟩ := takes_unary hsound hle hleft
  exact htail hlt (Nat.lt_succ_of_le hleast) (.operand hfront)
    (stops_of_le (Nat.le_succ 6) (stops_six behind)) hchain

/-- The induction is on the tokens behind the left operand, which grows by an operator and its
right operand with each step. It is then a phrase of the level of this operator, and the right
operand has left no tighter one behind. -/
theorem soundTail (hsound : Sound n) (hle : tokens.length ≤ n) : SoundTail tokens := by
  induction hlength : tokens.length using Nat.strongRecOn generalizing tokens with
  | ind k ih =>
  intro least m left tree before rest hlt hleft hstops h
  obtain ⟨op, more, right, behind, hop, hless, hright, htail⟩ | ⟨hstop, rfl, rfl⟩ :=
    reads_binaryTail.1 h
  · -- the operator fits between the two bounds, so that the left operand is one of its level
    have hm := hstops op more hop
    obtain ⟨sign, i, rfl, hsign⟩ := binaryOp?_eq_some_iff.1 hop
    rw [List.length_cons] at hle hlength
    have hbehind := hright.length_lt
    have hmem : (sign, op) ∈ operators op.precedence := mem_operators_iff.2 ⟨hsign, rfl⟩
    obtain ⟨⟨front, rfl, hfront⟩, hstops'⟩ := chained_binary hsound (by omega)
      (fun hlt => ih _ (by omega) (by omega) rfl) (Nat.le_of_lt_succ op.precedence_lt) hright
    have := ih behind.length (by omega) (by omega) rfl hless
      (.operator (i := i) hmem (hleft.level_of_le hm) hfront) hstops' htail
    rwa [List.append_assoc, List.cons_append] at this
  · exact ⟨⟨before, rfl, hleft.level_of_le hlt⟩, hstop⟩

/-! ## Expressions -/

theorem takes_chain (hsound : Sound n) (hle : tokens.length ≤ n)
    (h : Reads (binary 0 tokens) tree rest) : Takes (.level 1 tree) tokens rest :=
  (chained_binary hsound hle (fun hlt => soundTail hsound (by omega)) (Nat.zero_le 6) h).1

theorem sound (n : Nat) : Sound n := by
  induction n with
  | zero => exact fun hlt => absurd hlt (Nat.not_lt_zero _)
  | succ n hsound =>
      intro tokens hlt tree rest h
      have hle := Nat.le_of_lt_succ hlt
      obtain ⟨test, left, htest, ⟨-, rfl, rfl⟩ |
        ⟨more, consequent, behind, more', alternate, hquestion, hconsequent, hcolon, halternate,
          rfl⟩⟩ := reads_expression.1 h
      · obtain ⟨front, htokens, hfront⟩ := takes_chain hsound hle htest
        exact ⟨front, htokens, .chain hfront⟩
      · obtain ⟨before, rfl, hbefore⟩ := takes_chain hsound hle htest
        obtain ⟨i, rfl⟩ := eat?_eq_some_iff.1 hquestion
        rw [List.length_append, List.length_cons] at hle
        obtain ⟨between, j, rfl, hbetween⟩ := hsound.encloses (by omega) hconsequent hcolon
        rw [List.length_append, List.length_cons] at hle
        obtain ⟨last, rfl, hlast⟩ := hsound (by omega) halternate
        exact ⟨before ++ ⟨.symbol .question, i⟩ :: (between ++ ⟨.symbol .colon, j⟩ :: last),
          by simp, .conditional hbefore hbetween hlast⟩

/-- What is read as an expression is one. -/
theorem takes_expression (h : Reads (expression tokens) tree rest) :
    Takes (.expression tree) tokens rest :=
  sound (tokens.length + 1) (Nat.lt_succ_self _) h

end Sound

end HttpDoctest.Grammar
