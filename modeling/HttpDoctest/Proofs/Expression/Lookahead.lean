import HttpDoctest.Proofs.Expression.Outcomes
import Mathlib.Control.Monad.Basic

set_option autoImplicit false

/-! # How far the readers of expressions look

A reader looks at no token behind the one that it stops at. Whether it stops at a token because it
has read a value in front of it, or because the token does not fit, it would have done the same
whatever followed (`Settled`). Readers that go on with each other keep to this, so that all of them
do, by induction on the number of tokens. An error over a token is therefore decided by the tokens
up to it (`syntax_errors_decided_at_token`).
-/

namespace HttpDoctest.Grammar

section Settled

variable {α β : Type} {tokens : List Token}

/-- What a reader does at the token that it stops at: it has read a value and leaves the token, or
it complains of it. -/
inductive Stop (α : Type) where
  | leaves (value : α)
  | rejects

/-- What a reader gives that stops at `token` in front of `rest`. -/
def Stop.outcome (stop : Stop α) (token : Token) (rest : List Token) : Outcome α :=
  match stop with
  | leaves value => .ok (value, token :: rest)
  | rejects => .error (.unexpectedToken token.kind.describe token.offset)

/-- What a reader gives that stops at no token: it has read all of them, or fails over something
else than a token. -/
inductive AtNone : Outcome α → Prop
  | ended (value : α) : AtNone (.ok (value, []))
  | failed {error : ExprError} (h : ∀ found offset, error ≠ .unexpectedToken found offset) :
      AtNone (.error error)

/-- Whether a reader stops at one of the tokens, whatever stands behind that one, or at none. -/
inductive Settled (reader : List Token → Outcome α) (tokens : List Token) : Prop
  | atNone (h : AtNone (reader tokens))
  | atToken (stop : Stop α) (front : List Token) (token : Token) (rest : List Token)
      (htokens : tokens = front ++ token :: rest)
      (hstop : ∀ rest', reader (front ++ token :: rest') = stop.outcome token rest')

/-! ## Ways to settle -/

theorem head?_append_cons (front : List Token) (token : Token) (rest rest' : List Token) :
    (front ++ token :: rest).head? = (front ++ token :: rest').head? := by
  cases front <;> rfl

/-- A reader may be told in another way that is the same in front of the same first token. -/
theorem Settled.congr {reader reader' : List Token → Outcome α}
    (h : ∀ tokens' : List Token, tokens'.head? = tokens.head? → reader tokens' = reader' tokens')
    (hreader' : Settled reader' tokens) : Settled reader tokens := by
  cases hreader' with
  | atNone hnone => exact .atNone (h tokens rfl ▸ hnone)
  | atToken stop front token rest htokens hstop =>
      refine .atToken stop front token rest htokens fun rest' => ?_
      rw [h _ (htokens ▸ head?_append_cons front token rest' rest), hstop]

/-- A reader that takes the first token goes on behind it. -/
theorem Settled.step {reader reader' : List Token → Outcome α} {token : Token}
    (h : ∀ rest, reader (token :: rest) = reader' rest) (hreader' : Settled reader' tokens) :
    Settled reader (token :: tokens) := by
  cases hreader' with
  | atNone hnone => exact .atNone (h tokens ▸ hnone)
  | atToken stop front token' rest htokens hstop =>
      refine .atToken stop (token :: front) token' rest (congrArg (token :: ·) htokens) ?_
      intro rest'
      rw [List.cons_append, h, hstop]

/-- What two readers do one after the other is settled where each of them is. -/
theorem Settled.andThen {first : List Token → Outcome α} {next : α → List Token → Outcome β}
    (hfirst : Settled first tokens)
    (hnext : ∀ value rest, first tokens = .ok (value, rest) → Settled (next value) rest) :
    Settled (fun tokens => andThen (first tokens) next) tokens := by
  cases hfirst with
  | atNone hnone =>
      cases hresult : first tokens with
      | error error =>
          rw [hresult] at hnone
          cases hnone with
          | failed herror =>
              refine .atNone ?_
              rw [hresult]
              exact .failed herror
      | ok found =>
          obtain ⟨value, rest⟩ := found
          rw [hresult] at hnone
          cases hnone with
          | ended =>
              -- nothing is left for the next reader to stop at
              cases hnext value [] hresult with
              | atNone hnone =>
                  refine .atNone ?_
                  rw [hresult]
                  exact hnone
              | atToken _ front _ _ htokens => cases front <;> cases htokens
  | atToken stop front token rest htokens hstop =>
      subst htokens
      cases stop with
      | rejects =>
          refine .atToken .rejects front token rest rfl fun rest' => ?_
          rw [hstop]
          rfl
      | leaves value =>
          have hgo (rest' : List Token) : Grammar.andThen (first (front ++ token :: rest')) next =
              next value (token :: rest') := by
            rw [hstop]
            rfl
          cases hnext value (token :: rest) (hstop rest) with
          | atNone hnone => exact .atNone ((hgo rest).symm ▸ hnone)
          | atToken stop front' token' rest' htokens hstop' =>
              -- the token that the first reader left stands in front of what the next one read
              obtain ⟨between, hbetween⟩ : ∃ between : List Token → List Token,
                  ∀ behind, front' ++ token' :: behind = token :: between behind := by
                cases front' with
                | nil =>
                    obtain ⟨rfl, -⟩ := List.cons.inj htokens
                    exact ⟨id, fun _ => rfl⟩
                | cons _ front' =>
                    obtain ⟨rfl, -⟩ := List.cons.inj htokens
                    exact ⟨(front' ++ token' :: ·), fun _ => rfl⟩
              refine .atToken stop (front ++ front') token' rest' ?_ fun behind => ?_
              · rw [htokens, List.append_assoc]
              · rw [List.append_assoc, hbetween, hgo, ← hbetween, hstop']

theorem settled_ok (value : α) (tokens : List Token) :
    Settled (fun tokens => .ok (value, tokens)) tokens := by
  cases tokens with
  | nil => exact .atNone (.ended value)
  | cons token rest => exact .atToken (.leaves value) [] token rest rfl fun _ => rfl

theorem settled_reject (tokens : List Token) :
    Settled (reject : List Token → Outcome α) tokens := by
  cases tokens with
  | nil => exact .atNone (.failed nofun)
  | cons token rest => exact .atToken .rejects [] token rest rfl fun _ => rfl

theorem eat?_congr {sign : Symbol} {tokens' : List Token} (hhead : tokens'.head? = tokens.head?)
    (h : eat? sign tokens = none) : eat? sign tokens' = none := by
  rcases eat?_cases sign tokens' with hnone | ⟨i, rest, rfl⟩
  · exact hnone
  · obtain ⟨rest', rfl⟩ := List.head?_eq_some_iff.1 hhead.symm
    cases h.symm.trans (eat?_eq_some_iff.2 ⟨i, rfl⟩)

theorem Settled.onSign {sign : Symbol} {found other : List Token → Outcome α}
    (hfound : ∀ rest, eat? sign tokens = some rest → Settled found rest)
    (hother : Settled other tokens) : Settled (onSign sign found other) tokens := by
  rcases eat?_cases sign tokens with hnone | ⟨i, rest, rfl⟩
  · exact hother.congr fun tokens' hhead => onSign_of_none (eat?_congr hhead hnone)
  · refine .step (fun rest => onSign_of_some ?_) (hfound rest ?_)
    · exact eat?_eq_some_iff.2 ⟨i, rfl⟩
    · exact eat?_eq_some_iff.2 ⟨i, rfl⟩

end Settled

theorem length_of_outcome {α : Type} {n : Nat} {result : Result α n} {value : α}
    {rest : List Token} (h : outcome result = .ok (value, rest)) : rest.length < n := by
  cases result with
  | error => cases h
  | ok reading =>
      cases h
      exact reading.rest_lt

/-! ## The readers of expressions -/

/-- Whether the reader of expressions is settled on fewer than `n` tokens. -/
def SettledBelow (n : Nat) : Prop :=
  ∀ {tokens : List Token}, tokens.length < n →
    Settled (fun tokens => outcome (expression tokens)) tokens

section Readers

variable {n : Nat} {tokens : List Token}

theorem settled_argumentList (hbelow : SettledBelow n) (hlt : tokens.length < n) {close : Symbol} :
    Settled (fun tokens => outcome (argumentList close tokens)) tokens := by
  induction hlength : tokens.length using Nat.strongRecOn generalizing tokens with
  | ind k ih =>
  refine .congr (fun tokens' _ => outcome_argumentList tokens') ?_
  refine (hbelow hlt).andThen fun item rest hitem => ?_
  have hrest := length_of_outcome hitem
  refine .onSign (fun _ _ => settled_ok _ _) (.onSign (fun more hcomma => ?_) (settled_reject _))
  have hmore := length_of_eat? hcomma
  exact (ih more.length (by omega) (by omega) rfl).andThen fun others rest _ => settled_ok _ _

theorem settled_arguments (hbelow : SettledBelow n) (hlt : tokens.length < n) {close : Symbol} :
    Settled (fun tokens => outcome (arguments close tokens)) tokens := by
  refine .congr (fun tokens' _ => outcome_arguments tokens') ?_
  exact .onSign (fun _ _ => settled_ok _ _) (settled_argumentList hbelow hlt)

theorem settled_primary (hbelow : SettledBelow n) (hle : tokens.length ≤ n) :
    Settled (fun tokens => outcome (primary tokens)) tokens := by
  cases tokens with
  | nil => exact .atNone (outcome_primary_nil ▸ .failed nofun)
  | cons token more =>
      obtain ⟨kind, i⟩ := token
      cases kind with
      | number x => exact .step (fun _ => outcome_primary_number) (settled_ok _ _)
      | string s => exact .step (fun _ => outcome_primary_string) (settled_ok _ _)
      | identifier name => exact .step (fun _ => outcome_primary_identifier) (settled_ok _ _)
      | symbol sign =>
          by_cases hparen : sign = .openParen
          · subst hparen
            refine .step (fun _ => outcome_primary_openParen) ?_
            exact (hbelow hle).andThen fun inner rest _ =>
              .onSign (fun _ _ => settled_ok _ _) (settled_reject _)
          by_cases hbracket : sign = .openBracket
          · subst hbracket
            refine .step (fun _ => outcome_primary_openBracket) ?_
            exact (settled_arguments hbelow hle).andThen fun items rest _ => settled_ok _ _
          · refine .congr (fun tokens' hhead => ?_) (settled_reject _)
            obtain ⟨rest, rfl⟩ := List.head?_eq_some_iff.1 hhead
            exact outcome_primary_symbol hparen hbracket

theorem settled_accessTail_dot (object : Expr) (i : Nat) {more : List Token}
    (hmore : ∀ {name : String} {j : Nat} {rest : List Token},
      more = ⟨.identifier name, j⟩ :: rest →
        Settled (fun tokens => outcome (accessTail (.member object (.literal (.string name))) tokens))
          rest) :
    Settled (fun tokens => outcome (accessTail object tokens)) (⟨.symbol .dot, i⟩ :: more) := by
  cases more with
  | nil => exact .atNone (outcome_accessTail_dot_end ▸ .failed nofun)
  | cons token rest =>
      by_cases hname : ∃ name, token.kind = .identifier name
      · obtain ⟨name, hname⟩ := hname
        obtain ⟨kind, j⟩ := token
        cases hname
        have hbehind : Settled (fun tokens =>
            outcome (accessTail object (⟨.symbol .dot, i⟩ :: tokens)))
            (⟨.identifier name, j⟩ :: rest) :=
          .step (fun _ => outcome_accessTail_dot_name) (hmore rfl)
        exact .step (fun _ => rfl) hbehind
      · refine .atToken .rejects [⟨.symbol .dot, i⟩] token rest rfl fun rest' => ?_
        exact outcome_accessTail_dot_other fun name heq => hname ⟨name, heq⟩

theorem noAccess_congr {tokens' : List Token} (hhead : tokens'.head? = tokens.head?)
    (h : NoAccess tokens) : NoAccess tokens' :=
  ⟨eat?_congr hhead h.dot, eat?_congr hhead h.openBracket, eat?_congr hhead h.openParen⟩

theorem settled_accessTail (hbelow : SettledBelow n) (hle : tokens.length ≤ n) {object : Expr} :
    Settled (fun tokens => outcome (accessTail object tokens)) tokens := by
  induction hlength : tokens.length using Nat.strongRecOn generalizing tokens object with
  | ind k ih =>
  obtain hnone | ⟨sign, i, more, rfl, rfl | rfl | rfl⟩ := noAccess_or tokens
  · exact .congr (fun _ hhead => outcome_accessTail_of_noAccess (noAccess_congr hhead hnone))
      (settled_ok _ _)
  · refine settled_accessTail_dot object i ?_
    rintro name j rest rfl
    rw [List.length_cons, List.length_cons] at hle hlength
    exact ih rest.length (by omega) (by omega) rfl
  · rw [List.length_cons] at hle hlength
    refine .step (fun _ => outcome_accessTail_openBracket) ?_
    refine (hbelow hle).andThen fun key rest hkey => ?_
    have hrest := length_of_outcome hkey
    refine .onSign (fun left hclose => ?_) (settled_reject _)
    have hleft := length_of_eat? hclose
    exact ih left.length (by omega) (by omega) rfl
  · rw [List.length_cons] at hle hlength
    refine .step (fun _ => outcome_accessTail_openParen) ?_
    refine (settled_arguments hbelow hle).andThen fun items rest hitems => ?_
    have hrest := length_of_outcome hitems
    cases callOf? items object with
    | some call => exact ih rest.length (by omega) (by omega) rfl
    | none => exact .atNone (.failed nofun)

theorem settled_access (hbelow : SettledBelow n) (hle : tokens.length ≤ n) :
    Settled (fun tokens => outcome (access tokens)) tokens := by
  refine .congr (fun tokens' _ => outcome_access tokens') ?_
  refine (settled_primary hbelow hle).andThen fun object rest hobject => ?_
  have hrest := length_of_outcome hobject
  exact settled_accessTail hbelow (by omega)

theorem unaryOp?_congr {tokens' : List Token} (hhead : tokens'.head? = tokens.head?)
    (h : unaryOp? tokens = none) : unaryOp? tokens' = none := by
  refine Option.eq_none_iff_forall_ne_some.2 fun ⟨op, more⟩ hop => ?_
  obtain ⟨kind, i, rfl, hsign⟩ := unaryOp?_eq_some_iff.1 hop
  obtain ⟨rest, rfl⟩ := List.head?_eq_some_iff.1 hhead.symm
  cases h.symm.trans (unaryOp?_eq_some_iff.2 ⟨kind, i, rfl, hsign⟩)

theorem settled_unary (hbelow : SettledBelow n) (hle : tokens.length ≤ n) :
    Settled (fun tokens => outcome (unary tokens)) tokens := by
  induction hlength : tokens.length using Nat.strongRecOn generalizing tokens with
  | ind k ih =>
  cases hop : unaryOp? tokens with
  | none =>
      exact .congr (fun _ hhead => outcome_unary_of_none (unaryOp?_congr hhead hop))
        (settled_access hbelow hle)
  | some found =>
      obtain ⟨op, more⟩ := found
      obtain ⟨kind, i, rfl, hsign⟩ := unaryOp?_eq_some_iff.1 hop
      rw [List.length_cons] at hle hlength
      have hsome (rest : List Token) : unaryOp? (⟨kind, i⟩ :: rest) = some (op, rest) :=
        unaryOp?_eq_some_iff.2 ⟨kind, i, rfl, hsign⟩
      refine .step (fun rest => outcome_unary_of_some (hsome rest)) ?_
      exact (ih more.length (by omega) (by omega) rfl).andThen fun operand rest _ =>
        settled_ok _ _

theorem stops_congr {least : Nat} {tokens' : List Token} (hhead : tokens'.head? = tokens.head?)
    (h : Stops least tokens) : Stops least tokens' := by
  intro op more hop
  obtain ⟨sign, i, rfl, hsign⟩ := binaryOp?_eq_some_iff.1 hop
  obtain ⟨rest, rfl⟩ := List.head?_eq_some_iff.1 hhead.symm
  exact h op rest (binaryOp?_eq_some_iff.2 ⟨sign, i, rfl, hsign⟩)

theorem stops_or (least : Nat) (tokens : List Token) :
    Stops least tokens ∨ ∃ sign i more op, tokens = ⟨.symbol sign, i⟩ :: more ∧
      BinaryOp.ofSymbol? sign = some op ∧ least < op.precedence := by
  cases hop : binaryOp? tokens with
  | none => exact .inl fun op more hsome => nomatch hop.symm.trans hsome
  | some found =>
      obtain ⟨op, more⟩ := found
      rcases Nat.lt_or_ge least op.precedence with hless | hle
      · obtain ⟨sign, i, rfl, hsign⟩ := binaryOp?_eq_some_iff.1 hop
        exact .inr ⟨sign, i, more, op, rfl, hsign, hless⟩
      · refine .inl fun op' more' hop' => ?_
        cases hop.symm.trans hop'
        exact hle

theorem settled_binary (hbelow : SettledBelow n) (hle : tokens.length ≤ n) {least : Nat}
    (htail : ∀ {left : Expr} {rest : List Token}, rest.length < tokens.length →
      Settled (fun tokens => outcome (binaryTail least left tokens)) rest) :
    Settled (fun tokens => outcome (binary least tokens)) tokens := by
  refine .congr (fun tokens' _ => outcome_binary least tokens') ?_
  exact (settled_unary hbelow hle).andThen fun left rest hleft =>
    htail (length_of_outcome hleft)

theorem settled_binaryTail (hbelow : SettledBelow n) (hle : tokens.length ≤ n) {least : Nat}
    {left : Expr} : Settled (fun tokens => outcome (binaryTail least left tokens)) tokens := by
  induction hlength : tokens.length using Nat.strongRecOn generalizing tokens least left with
  | ind k ih =>
  obtain hstops | ⟨sign, i, more, op, rfl, hsign, hless⟩ := stops_or least tokens
  · exact .congr (fun _ hhead => outcome_binaryTail_of_stops (stops_congr hhead hstops))
      (settled_ok _ _)
  · rw [List.length_cons] at hle hlength
    refine .step (fun rest => outcome_binaryTail_of_tighter
      (binaryOp?_eq_some_iff.2 ⟨sign, i, rfl, hsign⟩) hless) ?_
    have hright : Settled (fun tokens => outcome (binary op.precedence tokens)) more :=
      settled_binary hbelow (by omega) fun hlt => ih _ (by omega) (by omega) rfl
    refine hright.andThen fun right rest hread => ?_
    have hrest := length_of_outcome hread
    exact ih rest.length (by omega) (by omega) rfl

theorem settledBelow (n : Nat) : SettledBelow n := by
  induction n with
  | zero => exact fun hlt => absurd hlt (Nat.not_lt_zero _)
  | succ n hbelow =>
      intro tokens hlt
      have hle := Nat.le_of_lt_succ hlt
      refine .congr (fun tokens' _ => outcome_expression tokens') ?_
      have htest : Settled (fun tokens => outcome (binary 0 tokens)) tokens :=
        settled_binary hbelow hle fun hlt => settled_binaryTail hbelow (by omega)
      refine htest.andThen fun test left hread => ?_
      have hleft := length_of_outcome hread
      refine .onSign (fun more hquestion => ?_) (settled_ok _ _)
      have hmore := length_of_eat? hquestion
      refine (hbelow (by omega)).andThen fun consequent behind hconsequent => ?_
      have hbehind := length_of_outcome hconsequent
      refine .onSign (fun more' hcolon => ?_) (settled_reject _)
      have hmore' := length_of_eat? hcolon
      exact (hbelow (by omega)).andThen fun alternate rest _ => settled_ok _ _

theorem settled_expression (tokens : List Token) :
    Settled (fun tokens => outcome (expression tokens)) tokens :=
  settledBelow (tokens.length + 1) (Nat.lt_succ_self _)

/-! ## Statements and whole expressions -/

theorem settled_atEnd {α : Type} (value : α) (tokens : List Token) :
    Settled (atEnd value) tokens := by
  cases tokens with
  | nil => exact .atNone (.ended value)
  | cons token rest => exact .atToken .rejects [] token rest rfl fun _ => rfl

theorem settled_whole (tokens : List Token) :
    Settled (fun tokens => ended (whole tokens)) tokens := by
  refine .congr (fun tokens' _ => outcome_whole tokens') ?_
  exact (settled_expression tokens).andThen fun tree rest _ =>
    .onSign (fun _ _ => settled_atEnd _ _) (settled_atEnd _ _)

theorem settled_statement (tokens : List Token) :
    Settled (fun tokens => outcome (statement tokens)) tokens := by
  refine .congr (fun tokens' _ => outcome_statement tokens') ?_
  refine (settled_expression tokens).andThen fun left rest _ => ?_
  refine .onSign (fun more _ => ?_) (settled_ok _ _)
  cases left.place? with
  | some place => exact (settled_expression more).andThen fun right rest _ => settled_ok _ _
  | none => exact .atNone (.failed nofun)

theorem settled_statements (tokens : List Token) :
    Settled (fun tokens => ended (statements tokens)) tokens := by
  induction hlength : tokens.length using Nat.strongRecOn generalizing tokens with
  | ind n ih =>
  cases tokens with
  | nil =>
      refine .atNone ?_
      rw [statements]
      exact .ended []
  | cons token more =>
  rcases eat?_cases .semicolon (token :: more) with hnone | ⟨i, more, htokens⟩
  · have hne {tokens' : List Token} (hhead : tokens'.head? = (token :: more).head?) :
        tokens' ≠ [] := by
      rintro rfl
      cases hhead
    refine .congr (fun tokens' hhead => outcome_statements (eat?_congr hhead hnone) (hne hhead)) ?_
    refine (settled_statement _).andThen fun first rest hfirst => ?_
    have hrest := length_of_outcome hfirst
    cases rest with
    | nil => exact .atNone (.ended [first])
    | cons next rest =>
        have hsome {tokens' : List Token} (hhead : tokens'.head? = (next :: rest).head?) :
            ¬tokens'.isEmpty = true := by
          obtain ⟨rest', rfl⟩ := List.head?_eq_some_iff.1 hhead
          exact Bool.false_ne_true
        refine .congr (fun tokens' hhead => if_neg (hsome hhead)) ?_
        refine .onSign (fun left hleft => ?_) (settled_reject _)
        have hlt := length_of_eat? hleft
        exact (ih left.length (by omega) left rfl).andThen fun others rest _ => settled_ok _ _
  · cases htokens
    rw [List.length_cons] at hlength
    exact .step (fun _ => congrArg ended statements_semicolon) (ih more.length (by omega) more rfl)

end Readers

/-! ## Errors over tokens -/

section Errors

variable {α : Type} {read : List Token → Except ExprError α} {tokens : List Token}

/-- A reader of all tokens that complains of a token has read the tokens up to that one, and fails
in the same way whatever follows. -/
theorem Settled.error {found : String} {offset : Nat}
    (h : Settled (fun tokens => ended (read tokens)) tokens)
    (herror : read tokens = .error (.unexpectedToken found offset)) :
    ∃ front token rest, tokens = front ++ token :: rest ∧ token.kind.describe = found ∧
      token.offset = offset ∧
      ∀ rest', read (front ++ token :: rest') = .error (.unexpectedToken found offset) := by
  have hended {tokens : List Token} {error : ExprError} (h : ended (read tokens) = .error error) :
      read tokens = .error error := by
    cases hread : read tokens with
    | error => exact congrArg _ (Except.error.inj (hread ▸ h))
    | ok value => rw [hread] at h; cases h
  cases h with
  | atNone hnone =>
      rw [herror] at hnone
      cases hnone with
      | failed hother => exact absurd rfl (hother found offset)
  | atToken stop front token rest htokens hstop =>
      subst htokens
      have hhere := hstop rest
      rw [herror] at hhere
      cases stop with
      | leaves value => cases hhere
      | rejects =>
          cases hhere
          exact ⟨front, token, rest, rfl, rfl, rfl, fun rest' => hended (hstop rest')⟩

/-- More tokens do not mend an error over a token. -/
theorem Settled.error_append {front : List Token} {found : String} {offset : Nat}
    (h : Settled (fun tokens => ended (read tokens)) front)
    (herror : read front = .error (.unexpectedToken found offset)) (behind : List Token) :
    read (front ++ behind) = .error (.unexpectedToken found offset) := by
  obtain ⟨front, token, rest, rfl, -, -, hread⟩ := h.error herror
  rw [List.append_assoc, List.cons_append]
  exact hread _

/-- Tokens that are the same up to a place have the same front. -/
theorem exists_eq_append_of_agree {front rest tokens' : List Token} {token : Token}
    (h : ∀ i ≤ front.length, tokens'[i]? = (front ++ token :: rest)[i]?) :
    ∃ rest', tokens' = front ++ token :: rest' := by
  have htake : tokens'.take (front.length + 1) = front ++ [token] := by
    have hsplit : front ++ token :: rest = (front ++ [token]) ++ rest := by simp
    calc tokens'.take (front.length + 1)
        = (front ++ token :: rest).take (front.length + 1) := by
          refine List.ext_getElem? fun i => ?_
          rw [List.getElem?_take, List.getElem?_take]
          split
          · next hlt => exact h i (Nat.le_of_lt_succ hlt)
          · rfl
      _ = front ++ [token] := by rw [hsplit, List.take_left' (by simp)]
  refine ⟨tokens'.drop (front.length + 1), ?_⟩
  rw [← List.singleton_append, ← List.append_assoc, ← htake, List.take_append_drop]

end Errors

end HttpDoctest.Grammar

namespace HttpDoctest

/-- Whether the error over the token `found` at the byte `offset` is over the token at place `k`,
and every source with the same tokens up to that place fails with it. -/
structure DecidedAt {α : Type} (ofSource : String → Except ExprError α) (tokens : List Token)
    (found : String) (offset k : Nat) : Prop where
  here : ∃ token, tokens[k]? = some token ∧ token.kind.describe = found ∧ token.offset = offset
  decided : ∀ source' tokens', Token.ofSource source' = .ok tokens' →
    (∀ i ≤ k, tokens'[i]? = tokens[i]?) →
    ofSource source' = .error (.unexpectedToken found offset)

open Grammar in
theorem exists_decidedAt {α : Type} {read : List Token → Except ExprError α} {source : String}
    {tokens : List Token} {found : String} {offset : Nat}
    (hsettled : Settled (fun tokens => ended (read tokens)) tokens)
    (htokens : Token.ofSource source = .ok tokens)
    (herror : Token.ofSource source >>= read = .error (.unexpectedToken found offset)) :
    ∃ k, DecidedAt (fun source => Token.ofSource source >>= read) tokens found offset k := by
  rw [htokens] at herror
  obtain ⟨front, token, rest, rfl, hfound, hoffset, hread⟩ := hsettled.error herror
  refine ⟨front.length, ⟨token, ?_, hfound, hoffset⟩, fun source' tokens' htokens' hagree => ?_⟩
  · rw [List.getElem?_append_right (Nat.le_refl _), Nat.sub_self]
    rfl
  · obtain ⟨rest', rfl⟩ := exists_eq_append_of_agree hagree
    rw [htokens']
    exact hread rest'

/-- **A syntax error is decided at the token that it names.** Where the reader of expressions or
that of statements complains of a token, it names a token of the source and the byte at which it
starts, and fails in the same way on every source that has the same tokens up to that one. Where it
complains that the tokens end too early, it complains of no token in any front of them. -/
theorem syntax_errors_decided_at_token {source : String} {tokens : List Token}
    (h : Token.ofSource source = .ok tokens) :
    (∀ found offset, Expr.ofSource source = .error (.unexpectedToken found offset) →
      ∃ k, DecidedAt Expr.ofSource tokens found offset k) ∧
    (∀ found offset, Statement.listOfSource source = .error (.unexpectedToken found offset) →
      ∃ k, DecidedAt Statement.listOfSource tokens found offset k) ∧
    (Expr.ofSource source = .error .unexpectedEnd →
      ∀ front, front <+: tokens → front ≠ tokens → ∀ found offset,
        Grammar.whole front ≠ .error (.unexpectedToken found offset)) ∧
    (Statement.listOfSource source = .error .unexpectedEnd →
      ∀ front, front <+: tokens → front ≠ tokens → ∀ found offset,
        Grammar.statements front ≠ .error (.unexpectedToken found offset)) := by
  have hexpr : Expr.ofSource source = Grammar.whole tokens := by
    rw [Expr.ofSource, h]
    rfl
  have hstatements : Statement.listOfSource source = Grammar.statements tokens := by
    rw [Statement.listOfSource, h]
    rfl
  refine ⟨fun found offset herror => ?_, fun found offset herror => ?_, ?_, ?_⟩
  · exact exists_decidedAt (Grammar.settled_whole tokens) h herror
  · exact exists_decidedAt (Grammar.settled_statements tokens) h herror
  · rintro hend front ⟨behind, rfl⟩ - found offset herror
    rw [hexpr, (Grammar.settled_whole front).error_append herror behind] at hend
    cases hend
  · rintro hend front ⟨behind, rfl⟩ - found offset herror
    rw [hstatements, (Grammar.settled_statements front).error_append herror behind] at hend
    cases hend

/-- Of two names side by side the second is complained of, whatever follows; a member without a
name may still be completed. -/
theorem second_name_decides :
    (Token.ofSource "a b" = .ok [⟨.identifier "a", 0⟩, ⟨.identifier "b", 2⟩] ∧
      Expr.ofSource "a b" = .error (.unexpectedToken "b" 2) ∧
      Statement.listOfSource "a b" = .error (.unexpectedToken "b" 2) ∧
      (∃ k, DecidedAt Expr.ofSource [⟨.identifier "a", 0⟩, ⟨.identifier "b", 2⟩] "b" 2 k) ∧
      ∃ k, DecidedAt Statement.listOfSource [⟨.identifier "a", 0⟩, ⟨.identifier "b", 2⟩] "b" 2 k) ∧
    Token.ofSource "a." = .ok [⟨.identifier "a", 0⟩, ⟨.symbol .dot, 1⟩] ∧
      Expr.ofSource "a." = .error .unexpectedEnd ∧
      ∀ found offset,
        Grammar.whole [⟨.identifier "a", 0⟩] ≠ .error (.unexpectedToken found offset) := by
  have hnames : Token.ofSource "a b" = .ok [⟨.identifier "a", 0⟩, ⟨.identifier "b", 2⟩] := by
    decide +kernel
  have hmember : Token.ofSource "a." = .ok [⟨.identifier "a", 0⟩, ⟨.symbol .dot, 1⟩] := by
    decide +kernel
  have hexpr : Expr.ofSource "a b" = .error (.unexpectedToken "b" 2) := by
    rw [Expr.ofSource, hnames]
    cbv
  have hstatements : Statement.listOfSource "a b" = .error (.unexpectedToken "b" 2) := by
    rw [Statement.listOfSource, hnames]
    cbv
  have hend : Expr.ofSource "a." = .error .unexpectedEnd := by
    rw [Expr.ofSource, hmember]
    cbv
  obtain ⟨hfirst, hsecond, -, -⟩ := syntax_errors_decided_at_token hnames
  obtain ⟨-, -, hfront, -⟩ := syntax_errors_decided_at_token hmember
  exact ⟨⟨hnames, hexpr, hstatements, hfirst "b" 2 hexpr, hsecond "b" 2 hstatements⟩, hmember,
    hend, hfront hend [⟨.identifier "a", 0⟩] ⟨[⟨.symbol .dot, 1⟩], rfl⟩ (by decide)⟩

end HttpDoctest
