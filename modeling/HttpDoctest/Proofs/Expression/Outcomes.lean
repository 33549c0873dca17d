import HttpDoctest.Proofs.Expression.Statements

set_option autoImplicit false

/-! # What the readers of expressions give

What a reader gives without the bound on what it leaves (`outcome`), and what that is for each
reader, told with the readers that it calls. Two ways to go on are all that the readers need: to go
on with the value and the rest of another reader (`andThen`), and to look whether a sign comes next
(`onSign`). Unlike the laws on what is read, these equations also say which error there is.
-/

namespace HttpDoctest.Grammar

section Outcome

variable {α β : Type} {m n : Nat}

/-- A value and what follows it, or an error. -/
abbrev Outcome (α : Type) := Except ExprError (α × List Token)

/-- What a reader gives, without the bound on the rest. -/
def outcome (result : Result α n) : Outcome α :=
  result.map fun reading => (reading.value, reading.rest)

/-- Goes on with the value that was read and with what follows it. -/
def andThen (first : Outcome α) (next : α → List Token → Outcome β) : Outcome β :=
  match first with
  | .ok (value, rest) => next value rest
  | .error error => .error error

/-- Goes on behind the given sign if it comes next, and in another way if it does not. -/
def onSign (sign : Symbol) (found other : List Token → Outcome α) (tokens : List Token) :
    Outcome α :=
  match eat? sign tokens with
  | some rest => found rest
  | none => other tokens

/-- Complains of the next token. -/
def reject (tokens : List Token) : Outcome α :=
  .error (unexpected tokens)

@[simp] theorem outcome_error (error : ExprError) :
    outcome (.error error : Result α n) = .error error :=
  rfl

@[simp] theorem outcome_ok (reading : Reading Token α n) :
    outcome (.ok reading) = .ok (reading.value, reading.rest) :=
  rfl

@[simp] theorem outcome_pure (reading : Reading Token α n) :
    outcome (pure reading) = .ok (reading.value, reading.rest) :=
  rfl

theorem onSign_of_some {sign : Symbol} {found other : List Token → Outcome α}
    {tokens rest : List Token} (h : eat? sign tokens = some rest) :
    onSign sign found other tokens = found rest := by
  rw [onSign, h]

theorem onSign_of_none {sign : Symbol} {found other : List Token → Outcome α}
    {tokens : List Token} (h : eat? sign tokens = none) :
    onSign sign found other tokens = other tokens := by
  rw [onSign, h]

theorem outcome_bind {first : Result α m} {next : Reading Token α m → Result β n}
    {next' : α → List Token → Outcome β}
    (h : ∀ reading, outcome (next reading) = next' reading.value reading.rest) :
    outcome (first >>= next) = andThen (outcome first) next' := by
  cases first with
  | error error => rfl
  | ok reading => exact h reading

theorem outcome_bind_weaken {first : Result α m} {hle : Reading Token α m → m ≤ n} :
    outcome (first >>= fun reading => pure (reading.weaken (hle reading)) : Result α n) =
      outcome first := by
  cases first <;> rfl

theorem outcome_expect_bind {sign : Symbol} {tokens : List Token}
    {next : Reading Token Unit tokens.length → Result α n} {found : List Token → Outcome α}
    (h : ∀ reading, outcome (next reading) = found reading.rest) :
    outcome (expect sign tokens >>= next) = onSign sign found reject tokens := by
  unfold expect
  split
  · next rest hrest =>
    rw [onSign_of_some hrest]
    exact h _
  · next hnone =>
    rw [onSign_of_none hnone]
    rfl

end Outcome

variable {tokens : List Token} {offset : Nat}

/-! ## Chains of operators -/

theorem outcome_expression (tokens : List Token) :
    outcome (expression tokens) =
      andThen (outcome (binary 0 tokens)) fun test =>
        onSign .question
          (fun more => andThen (outcome (expression more)) fun consequent =>
            onSign .colon
              (fun more' => andThen (outcome (expression more')) fun alternate rest =>
                .ok (.conditional test consequent alternate, rest))
              reject)
          (fun left => .ok (test, left)) := by
  rw [expression]
  refine outcome_bind fun test => ?_
  dsimp only
  split
  · next hnone =>
    rw [onSign_of_none hnone]
    rfl
  · next more hmore =>
    rw [onSign_of_some hmore]
    exact outcome_bind fun consequent => outcome_expect_bind fun colon =>
      outcome_bind fun alternate => rfl

theorem outcome_binary (least : Nat) (tokens : List Token) :
    outcome (binary least tokens) =
      andThen (outcome (unary tokens)) fun left rest => outcome (binaryTail least left rest) := by
  rw [binary]
  exact outcome_bind fun left => outcome_bind_weaken

section BinaryTail

variable {least : Nat} {left : Expr} {op : BinaryOp} {more : List Token}

theorem outcome_binaryTail_of_tighter (h : binaryOp? tokens = some (op, more))
    (hless : least < op.precedence) :
    outcome (binaryTail least left tokens) =
      andThen (outcome (binary op.precedence more)) fun right rest =>
        outcome (binaryTail least (.binary op left right) rest) := by
  rw [binaryTail]
  split
  · next heq =>
    cases h.symm.trans heq
    rw [if_pos hless]
    exact outcome_bind fun right => outcome_bind_weaken
  · next heq => cases h.symm.trans heq

theorem outcome_binaryTail_of_stops (h : Stops least tokens) :
    outcome (binaryTail least left tokens) = .ok (left, tokens) := by
  rw [binaryTail]
  split
  · next op more hop =>
    rw [if_neg (Nat.not_lt.2 (h op more hop))]
    rfl
  · rfl

end BinaryTail

theorem outcome_unary_of_some {op : UnaryOp} {more : List Token}
    (h : unaryOp? tokens = some (op, more)) :
    outcome (unary tokens) =
      andThen (outcome (unary more)) fun operand rest => .ok (.unary op operand, rest) := by
  rw [unary]
  split
  · next heq =>
    cases h.symm.trans heq
    exact outcome_bind fun operand => rfl
  · next heq => cases h.symm.trans heq

theorem outcome_unary_of_none (h : unaryOp? tokens = none) :
    outcome (unary tokens) = outcome (access tokens) := by
  rw [unary]
  split
  · next heq => cases h.symm.trans heq
  · rfl

/-! ## Accesses -/

theorem outcome_access (tokens : List Token) :
    outcome (access tokens) =
      andThen (outcome (primary tokens)) fun object rest => outcome (accessTail object rest) := by
  rw [access]
  exact outcome_bind fun object => outcome_bind_weaken

section AccessTail

variable {object : Expr}

theorem outcome_accessTail_dot_name {name : String} {offset' : Nat} :
    outcome (accessTail object (⟨.symbol .dot, offset⟩ :: ⟨.identifier name, offset'⟩ :: tokens)) =
      outcome (accessTail (.member object (.literal (.string name))) tokens) := by
  rw [accessTail]
  exact outcome_bind_weaken

theorem outcome_accessTail_dot_end :
    outcome (accessTail object [⟨.symbol .dot, offset⟩]) = .error .unexpectedEnd := by
  rw [accessTail]
  rfl

theorem outcome_accessTail_dot_other {token : Token}
    (h : ∀ name, token.kind ≠ .identifier name) :
    outcome (accessTail object (⟨.symbol .dot, offset⟩ :: token :: tokens)) =
      reject (token :: tokens) := by
  rw [accessTail]
  · rfl
  · rintro name i rfl
    exact h name rfl

theorem outcome_accessTail_openBracket :
    outcome (accessTail object (⟨.symbol .openBracket, offset⟩ :: tokens)) =
      andThen (outcome (expression tokens)) fun key =>
        onSign .closeBracket (fun more => outcome (accessTail (.member object key) more))
          reject := by
  rw [accessTail]
  exact outcome_bind fun key => outcome_expect_bind fun close => outcome_bind_weaken

theorem outcome_accessTail_openParen :
    outcome (accessTail object (⟨.symbol .openParen, offset⟩ :: tokens)) =
      andThen (outcome (arguments .closeParen tokens)) fun items rest =>
        match callOf? items object with
        | some call => outcome (accessTail call rest)
        | none => .error .unsupportedCall := by
  rw [accessTail]
  refine outcome_bind fun inner => ?_
  dsimp only
  cases callOf? inner.value object with
  | some call => exact outcome_bind_weaken
  | none => rfl

theorem outcome_accessTail_of_noAccess (h : NoAccess tokens) :
    outcome (accessTail object tokens) = .ok (object, tokens) := by
  have hsign {sign : Symbol} {offset : Nat} {more : List Token}
      (heq : tokens = ⟨.symbol sign, offset⟩ :: more) : eat? sign tokens = some more :=
    eat?_eq_some_iff.2 ⟨offset, heq⟩
  rw [accessTail.eq_def]
  split
  case h_6 => rfl
  case h_1 => cases h.dot.symm.trans (hsign rfl)
  case h_2 => cases h.dot.symm.trans (hsign rfl)
  case h_3 => cases h.dot.symm.trans (hsign rfl)
  case h_4 => cases h.openBracket.symm.trans (hsign rfl)
  case h_5 => cases h.openParen.symm.trans (hsign rfl)

end AccessTail

/-! ## Lists -/

section Arguments

variable {close : Symbol}

theorem outcome_arguments (tokens : List Token) :
    outcome (arguments close tokens) =
      onSign close (fun rest => .ok ([], rest)) (fun tokens => outcome (argumentList close tokens))
        tokens := by
  rw [arguments]
  split
  · next hsome =>
    rw [onSign_of_some hsome]
    rfl
  · next hnone => rw [onSign_of_none hnone]

theorem outcome_argumentList (tokens : List Token) :
    outcome (argumentList close tokens) =
      andThen (outcome (expression tokens)) fun item =>
        onSign close (fun rest => .ok ([item], rest))
          (onSign .comma
            (fun more => andThen (outcome (argumentList close more)) fun others rest =>
              .ok (item :: others, rest))
            reject) := by
  rw [argumentList]
  refine outcome_bind fun item => ?_
  dsimp only
  split
  · next hsome =>
    rw [onSign_of_some hsome]
    rfl
  · next hnone =>
    rw [onSign_of_none hnone]
    exact outcome_expect_bind fun comma => outcome_bind fun others => rfl

end Arguments

/-! ## Primary expressions -/

theorem outcome_primary_nil : outcome (primary []) = .error .unexpectedEnd := by
  rw [primary]
  rfl

theorem outcome_primary_number {x : Float} :
    outcome (primary (⟨.number x, offset⟩ :: tokens)) = .ok (.literal (.number x), tokens) := by
  rw [primary]
  rfl

theorem outcome_primary_string {s : String} :
    outcome (primary (⟨.string s, offset⟩ :: tokens)) = .ok (.literal (.string s), tokens) := by
  rw [primary]
  rfl

theorem outcome_primary_identifier {name : String} :
    outcome (primary (⟨.identifier name, offset⟩ :: tokens)) = .ok (.ofName name, tokens) := by
  rw [primary]
  rfl

theorem outcome_primary_openParen :
    outcome (primary (⟨.symbol .openParen, offset⟩ :: tokens)) =
      andThen (outcome (expression tokens)) fun inner =>
        onSign .closeParen (fun rest => .ok (inner, rest)) reject := by
  rw [primary]
  exact outcome_bind fun inner => outcome_expect_bind fun close => rfl

theorem outcome_primary_openBracket :
    outcome (primary (⟨.symbol .openBracket, offset⟩ :: tokens)) =
      andThen (outcome (arguments .closeBracket tokens)) fun items rest =>
        .ok (.array items, rest) := by
  rw [primary]
  exact outcome_bind fun items => rfl

theorem outcome_primary_symbol {sign : Symbol} (hparen : sign ≠ .openParen)
    (hbracket : sign ≠ .openBracket) :
    outcome (primary (⟨.symbol sign, offset⟩ :: tokens)) =
      reject (⟨.symbol sign, offset⟩ :: tokens) := by
  rw [primary]
  · rfl
  · exact hparen
  · exact hbracket

/-! ## Statements and whole expressions -/

theorem outcome_statement (tokens : List Token) :
    outcome (statement tokens) =
      andThen (outcome (expression tokens)) fun left =>
        onSign .assign
          (fun more => match left.place? with
            | some place => andThen (outcome (expression more)) fun right rest =>
                .ok (.assign place right, rest)
            | none => .error .invalidAssignmentTarget)
          (fun rest => .ok (.evaluate left, rest)) := by
  rw [statement]
  refine outcome_bind fun left => ?_
  split
  · next hnone =>
    rw [onSign_of_none hnone]
    rfl
  · next hsome =>
    rw [onSign_of_some hsome]
    split
    · next hplace =>
      rw [hplace]
      rfl
    · next place hplace =>
      rw [hplace]
      exact outcome_bind fun right => rfl

/-- What a reader of all tokens gives. -/
def ended {α : Type} (result : Except ExprError α) : Outcome α :=
  result.map fun value => (value, [])

/-- Gives the value if no token is left, and complains of the next token if one is. -/
def atEnd {α : Type} (value : α) : List Token → Outcome α
  | [] => .ok (value, [])
  | token :: rest => reject (token :: rest)

theorem outcome_whole (tokens : List Token) :
    ended (whole tokens) =
      andThen (outcome (expression tokens)) fun tree =>
        onSign .semicolon (atEnd tree) (atEnd tree) := by
  rw [whole]
  cases expression tokens with
  | error error => rfl
  | ok reading =>
      dsimp only [bind, Except.bind]
      show _ = onSign .semicolon (atEnd reading.value) (atEnd reading.value) reading.rest
      cases hsign : eat? .semicolon reading.rest with
      | some more =>
          rw [onSign_of_some hsign, Option.getD_some]
          cases more <;> rfl
      | none =>
          rw [onSign_of_none hsign, Option.getD_none]
          cases reading.rest <;> rfl

theorem outcome_statements (hsemicolon : eat? .semicolon tokens = none) (hne : tokens ≠ []) :
    ended (statements tokens) =
      andThen (outcome (statement tokens)) fun first rest =>
        if rest.isEmpty then .ok ([first], [])
        else onSign .semicolon
          (fun more => andThen (ended (statements more)) fun others rest =>
            .ok (first :: others, rest))
          reject rest := by
  cases tokens with
  | nil => exact absurd rfl hne
  | cons token tokens =>
  rw [statements]
  split
  · next heq => cases hsemicolon.symm.trans heq
  · cases statement (token :: tokens) with
    | error error => rfl
    | ok reading =>
        dsimp only [bind, Except.bind, outcome_ok, andThen]
        split
        · rfl
        · split
          · next more hmore =>
            rw [onSign_of_some hmore]
            cases statements more <;> rfl
          · next hnone =>
            rw [onSign_of_none hnone]
            rfl

end HttpDoctest.Grammar
