import HttpDoctest.Expression.Lexeme
import HttpDoctest.Expression.Syntax
import HttpDoctest.Reading

set_option autoImplicit false

/-! # The grammar of expressions

Reads tokens as an expression or as statements, from left to right and without going back:

* an expression is a chain of binary operators, or a choice `test ? a : b` behind one;
* an operand of a chain has any number of unary operators in front of it;
* behind a primary expression stand any number of accesses: `.name`, `[key]` and argument
  lists, the last only behind an access whose key is a literal text;
* a primary expression is a literal, a name, a list in brackets or an expression in
  parentheses.

A token that does not fit is reported as soon as it is reached.
-/

namespace HttpDoctest.Grammar

/-- The result of reading from the front of a token list of which less than `bound` is left. -/
abbrev Result (α : Type) (bound : Nat) := Except ExprError (Reading Token α bound)

/-- The error over the next token, or over the lack of one. -/
def unexpected : List Token → ExprError
  | [] => .unexpectedEnd
  | token :: _ => .unexpectedToken token.kind.describe token.offset

/-- What follows the given symbol, if it comes next. -/
def eat? (sign : Symbol) : List Token → Option (List Token)
  | ⟨.symbol s, _⟩ :: rest => if s = sign then some rest else none
  | _ => none

theorem length_of_eat? {sign : Symbol} {tokens rest : List Token}
    (h : eat? sign tokens = some rest) : rest.length < tokens.length := by
  unfold eat? at h
  split at h
  · split at h
    · cases h; simp
    · cases h
  · cases h

/-- Demands the given symbol. -/
def expect (sign : Symbol) (tokens : List Token) : Result Unit tokens.length :=
  match h : eat? sign tokens with
  | some rest => .ok ⟨(), rest, length_of_eat? h⟩
  | none => .error (unexpected tokens)

/-- The binary operator that comes next, and what follows it. -/
def binaryOp? : List Token → Option (BinaryOp × List Token)
  | ⟨.symbol s, _⟩ :: rest => (BinaryOp.ofSymbol? s).map fun op => (op, rest)
  | _ => none

theorem length_of_binaryOp? {op : BinaryOp} {tokens rest : List Token}
    (h : binaryOp? tokens = some (op, rest)) : rest.length < tokens.length := by
  unfold binaryOp? at h
  split at h
  · obtain ⟨o, _, he⟩ := Option.map_eq_some_iff.1 h
    cases he; simp
  · cases h

/-- The unary operator that comes next, and what follows it. -/
def unaryOp? : List Token → Option (UnaryOp × List Token)
  | ⟨.symbol .bang, _⟩ :: rest => some (.not, rest)
  | ⟨.symbol .minus, _⟩ :: rest => some (.negate, rest)
  | ⟨.symbol .plus, _⟩ :: rest => some (.plus, rest)
  | ⟨.identifier name, _⟩ :: rest => if name = "typeof" then some (.typeOf, rest) else none
  | _ => none

theorem length_of_unaryOp? {op : UnaryOp} {tokens rest : List Token}
    (h : unaryOp? tokens = some (op, rest)) : rest.length < tokens.length := by
  unfold unaryOp? at h
  split at h
  · cases h; simp
  · cases h; simp
  · cases h; simp
  · split at h
    · cases h; simp
    · cases h
  · cases h

/-- The call of what was read so far, if it is the access of a key that is a literal text. -/
def callOf? (arguments : List Expr) : Expr → Option Expr
  | .member object (.literal (.string method)) => some (.call object method arguments)
  | _ => none

mutual

/-- Reads an expression. -/
def expression (tokens : List Token) : Result Expr tokens.length := do
  let test ← binary 0 tokens
  have := test.rest_lt
  match h : eat? .question test.rest with
  | none => return test
  | some rest =>
      have := length_of_eat? h
      let consequent ← expression rest
      have := consequent.rest_lt
      let colon ← expect .colon consequent.rest
      have := colon.rest_lt
      let alternate ← expression colon.rest
      return ⟨.conditional test.value consequent.value alternate.value, alternate.rest, by
        have := alternate.rest_lt; omega⟩
termination_by (tokens.length, 5)

/-- Reads a chain of operators that bind tighter than `least`. -/
def binary (least : Nat) (tokens : List Token) : Result Expr tokens.length := do
  let left ← unary tokens
  have := left.rest_lt
  let chain ← binaryTail least left.value left.rest
  return chain.weaken (by omega)
termination_by (tokens.length, 4)

/-- Reads on behind the operand `left` as long as operators bind tighter than `least`. -/
def binaryTail (least : Nat) (left : Expr) (tokens : List Token) :
    Result Expr (tokens.length + 1) :=
  match h : binaryOp? tokens with
  | some (op, rest) =>
      if least < op.precedence then do
        have := length_of_binaryOp? h
        let right ← binary op.precedence rest
        have := right.rest_lt
        let chain ← binaryTail least (.binary op left right.value) right.rest
        return chain.weaken (by omega)
      else .ok ⟨left, tokens, Nat.lt_succ_self _⟩
  | none => .ok ⟨left, tokens, Nat.lt_succ_self _⟩
termination_by (tokens.length, 0)

/-- Reads an operand with the unary operators in front of it. -/
def unary (tokens : List Token) : Result Expr tokens.length :=
  match h : unaryOp? tokens with
  | some (op, rest) => do
      have := length_of_unaryOp? h
      let operand ← unary rest
      return (operand.map (.unary op)).weaken (Nat.le_of_lt this)
  | none => access tokens
termination_by (tokens.length, 3)

/-- Reads a primary expression with the accesses behind it. -/
def access (tokens : List Token) : Result Expr tokens.length := do
  let object ← primary tokens
  have := object.rest_lt
  let result ← accessTail object.value object.rest
  return result.weaken (by omega)
termination_by (tokens.length, 2)

/-- Reads the accesses behind `object`. -/
def accessTail (object : Expr) (tokens : List Token) : Result Expr (tokens.length + 1) :=
  match tokens with
  | ⟨.symbol .dot, _⟩ :: [] => .error .unexpectedEnd
  | ⟨.symbol .dot, _⟩ :: ⟨.identifier name, _⟩ :: rest => do
      let result ← accessTail (.member object (.literal (.string name))) rest
      return result.weaken (by simp only [List.length_cons]; omega)
  | ⟨.symbol .dot, _⟩ :: token :: _ =>
      .error (.unexpectedToken token.kind.describe token.offset)
  | ⟨.symbol .openBracket, _⟩ :: rest => do
      let key ← expression rest
      have := key.rest_lt
      let close ← expect .closeBracket key.rest
      have := close.rest_lt
      let result ← accessTail (.member object key.value) close.rest
      return result.weaken (by simp only [List.length_cons]; omega)
  | ⟨.symbol .openParen, _⟩ :: rest => do
      let inner ← arguments .closeParen rest
      have := inner.rest_lt
      match callOf? inner.value object with
      | some call => do
          let result ← accessTail call inner.rest
          return result.weaken (by simp only [List.length_cons]; omega)
      | none => .error .unsupportedCall
  | tokens => .ok ⟨object, tokens, Nat.lt_succ_self _⟩
termination_by (tokens.length, 0)

/-- Reads expressions between commas, which may be none, up to and with `close`. -/
def arguments (close : Symbol) (tokens : List Token) : Result (List Expr) tokens.length :=
  match h : eat? close tokens with
  | some rest => .ok ⟨[], rest, length_of_eat? h⟩
  | none => argumentList close tokens
termination_by (tokens.length, 7)

/-- Reads one or more expressions between commas, up to and with `close`. -/
def argumentList (close : Symbol) (tokens : List Token) : Result (List Expr) tokens.length := do
  let argument ← expression tokens
  have := argument.rest_lt
  match h : eat? close argument.rest with
  | some rest => return ⟨[argument.value], rest, by have := length_of_eat? h; omega⟩
  | none =>
      let comma ← expect .comma argument.rest
      have := comma.rest_lt
      let more ← argumentList close comma.rest
      return ⟨argument.value :: more.value, more.rest, by have := more.rest_lt; omega⟩
termination_by (tokens.length, 6)

/-- Reads a primary expression. -/
def primary (tokens : List Token) : Result Expr tokens.length :=
  match tokens with
  | [] => .error .unexpectedEnd
  | ⟨.number x, _⟩ :: rest => .ok ⟨.literal (.number x), rest, Nat.lt_succ_self _⟩
  | ⟨.string s, _⟩ :: rest => .ok ⟨.literal (.string s), rest, Nat.lt_succ_self _⟩
  | ⟨.identifier name, _⟩ :: rest => .ok ⟨.ofName name, rest, Nat.lt_succ_self _⟩
  | ⟨.symbol .openParen, _⟩ :: rest => do
      let inner ← expression rest
      have := inner.rest_lt
      let close ← expect .closeParen inner.rest
      return ⟨inner.value, close.rest, by
        have := close.rest_lt; simp only [List.length_cons]; omega⟩
  | ⟨.symbol .openBracket, _⟩ :: rest => do
      let items ← arguments .closeBracket rest
      return (items.map .array).weaken (Nat.le_succ _)
  | ⟨.symbol sign, offset⟩ :: _ => .error (.unexpectedToken sign.text offset)
termination_by (tokens.length, 1)

end

/-- Reads one statement: an expression, or an assignment to a place. -/
def statement (tokens : List Token) : Result Statement tokens.length := do
  let left ← expression tokens
  match h : eat? .assign left.rest with
  | none => return left.map .evaluate
  | some rest =>
      match left.value.place? with
      | none => .error .invalidAssignmentTarget
      | some place =>
          let right ← expression rest
          return ⟨.assign place right.value, right.rest, by
            have := left.rest_lt
            have := length_of_eat? h
            have := right.rest_lt
            omega⟩

/-- Reads statements with semicolons between them. Surplus semicolons do no harm. -/
def statements (tokens : List Token) : Except ExprError (List Statement) :=
  match tokens with
  | [] => .ok []
  | token :: more =>
      match h : eat? .semicolon (token :: more) with
      | some rest =>
          have : rest.length ≤ more.length := Nat.le_of_lt_succ (length_of_eat? h)
          statements rest
      | none => do
          let first ← statement (token :: more)
          if first.rest.isEmpty then return [first.value]
          else match h' : eat? .semicolon first.rest with
            | some rest =>
                have : rest.length ≤ more.length :=
                  Nat.le_of_lt_succ (Nat.lt_trans (length_of_eat? h') first.rest_lt)
                return first.value :: (← statements rest)
            | none => .error (unexpected first.rest)
termination_by tokens.length

/-- Reads all tokens as one expression. One semicolon may follow it. -/
def whole (tokens : List Token) : Except ExprError Expr := do
  let found ← expression tokens
  match (eat? .semicolon found.rest).getD found.rest with
  | [] => return found.value
  | left => .error (unexpected left)

end HttpDoctest.Grammar

namespace HttpDoctest

/-- The expression that a source is. -/
def Expr.ofSource (source : String) : Except ExprError Expr := do
  Grammar.whole (← Token.ofSource source)

/-- The statements that a source holds. -/
def Statement.listOfSource (source : String) : Except ExprError (List Statement) := do
  Grammar.statements (← Token.ofSource source)

end HttpDoctest
