import HttpDoctest.Expression.Syntax
import HttpDoctest.Request.Headers
import HttpDoctest.Value.Members

set_option autoImplicit false

/-! # Evaluating expressions

An expression sees a response and the store, and nothing else. The parts of the response and
the store itself have names of their own; `this` has them as fields, and under any other key it
reads the store. Evaluation changes nothing: only the assignments of a side effect do, one after
the other, and each is seen by the next statement.

The store is a hash map: it promises no order of its entries. Here they stand in the order in which
their keys arrived, which is one of those that a hash map may show. The choice is seen only where
the store is taken as a whole, as the object `store` or as a field of `this`, and only of the text
of that object: its fields are found, and it is compared, whatever their order is.
-/

namespace HttpDoctest

/-- The response that expressions are about. -/
structure Context where
  status : Nat
  json : Value
  body : String
  headers : Headers

/-- All that an expression can see. -/
structure Scope where
  context : Context
  store : Store

namespace Scope

/-- The names that stand for a part of the response or for the store. -/
def fieldNames : List String := ["status", "json", "body", "headers", storeName]

/-- What such a name stands for. -/
def field? (scope : Scope) (name : String) : Option Value :=
  if name = "status" then some (.number (Number.ofInt scope.context.status))
  else if name = "json" then some scope.context.json
  else if name = "body" then some (.string scope.context.body)
  else if name = "headers" then
    some (.object (scope.context.headers.entries.map fun entry => (entry.1, .string entry.2)))
  else if name = storeName then some (.object scope.store.entries)
  else none

/-- The object that `this` is. -/
def this (scope : Scope) : Value :=
  .object (fieldNames.filterMap fun name => (scope.field? name).map fun value => (name, value))

/-- What the store holds under the text of a key. -/
def stored (scope : Scope) (key : Value) : Value :=
  (scope.store.get? key.text).getD .undefined

/-- The member of `this` under a key. -/
def thisMember (scope : Scope) (key : Value) : Value :=
  (scope.field? key.text).getD (scope.stored key)

end Scope

/-! ## Operators -/

/-- How two values compare: texts by their characters, all else as numbers. -/
def Value.order? (a b : Value) : Option Ordering :=
  match a, b with
  | .string s, .string t => some (compare s t)
  | _, _ => (Number.unpack a.toNumber).compare (Number.unpack b.toNumber)

/-- Whether a sum with this value joins texts. -/
def Value.isTextLike : Value → Bool
  | .string _ => true
  | .array _ => true
  | .object _ => true
  | _ => false

/-- The value of an operator in front of an operand. -/
def UnaryOp.apply (op : UnaryOp) (operand : Value) : Value :=
  match op with
  | not => .bool !operand.isTruthy
  | negate => .number (-operand.toNumber)
  | plus => .number operand.toNumber
  | typeOf => .string operand.typeName

/-- The value of an operator between two operands that have both been evaluated. -/
def BinaryOp.apply (op : BinaryOp) (left right : Value) : Value :=
  match op with
  | add =>
      if left.isTextLike || right.isTextLike then .string (left.text ++ right.text)
      else .number (left.toNumber + right.toNumber)
  | subtract => .number (left.toNumber - right.toNumber)
  | multiply => .number (left.toNumber * right.toNumber)
  | divide => .number (left.toNumber / right.toNumber)
  | remainder => .number (Number.remainder left.toNumber right.toNumber)
  | less => .bool (left.order? right == some .lt)
  | lessEqual => .bool (left.order? right == some .lt || left.order? right == some .eq)
  | greater => .bool (left.order? right == some .gt)
  | greaterEqual => .bool (left.order? right == some .gt || left.order? right == some .eq)
  | equal => .bool (left.looseEq right)
  | notEqual => .bool !left.looseEq right
  | strictEqual => .bool (left.strictEq right)
  | strictNotEqual => .bool !left.strictEq right
  | and => if left.isTruthy then right else left
  | or => if left.isTruthy then left else right

/-- Whether the left operand alone decides the value. -/
def BinaryOp.isDecidedBy (op : BinaryOp) (left : Value) : Bool :=
  match op with
  | and => !left.isTruthy
  | or => left.isTruthy
  | _ => false

/-! ## Expressions -/

namespace Expr

mutual

/-- The value of an expression. Operands and arguments are evaluated from left to right, the
key of a member before its object. A member of `this` or of the store is looked up without the
object that holds them all. -/
def eval (scope : Scope) : Expr → Except ExprError Value
  | literal value => .ok value
  | array items => return .array (← evalAll scope items)
  | this => .ok scope.this
  | identifier name => match scope.field? name with
    | some value => .ok value
    | none => .error (.unknownIdentifier name)
  | member object key => do
      let k ← key.eval scope
      match object.owner? with
      | some .this => return scope.thisMember k
      | some .store => return scope.stored k
      | none => (← object.eval scope).property k
  | call object method arguments => do
      let target ← object.eval scope
      target.invoke method (← evalAll scope arguments)
  | unary op operand => return op.apply (← operand.eval scope)
  | binary op left right => do
      let l ← left.eval scope
      if op.isDecidedBy l then return l
      return op.apply l (← right.eval scope)
  | conditional test consequent alternate => do
      if (← test.eval scope).isTruthy then consequent.eval scope else alternate.eval scope

/-- The values of expressions, from left to right. -/
def evalAll (scope : Scope) : List Expr → Except ExprError (List Value)
  | [] => .ok []
  | item :: items => return (← item.eval scope) :: (← evalAll scope items)

end

end Expr

/-! ## Statements -/

/-- The key of the store that an assignment to a place writes. The parts of the response cannot
be written. -/
def Place.key? (place : Place) (scope : Scope) : Except ExprError String := do
  let name := (← place.key.eval scope).text
  match place.owner with
  | .this => if name ∈ Scope.fieldNames then throw (.readOnlyProperty name) else return name
  | .store => return name

/-- The store after one statement. -/
def Statement.run (context : Context) (store : Store) : Statement → Except ExprError Store
  | evaluate expression => do
      let _ ← expression.eval ⟨context, store⟩
      return store
  | assign place value => do
      let key ← place.key? ⟨context, store⟩
      return store.put key (← value.eval ⟨context, store⟩)

/-- Runs statements one after the other up to the first that fails. Gives the store as the last
statement that succeeded left it, and the failure, if there is one. -/
def Statement.runAll (context : Context) (store : Store) :
    List Statement → Store × Except ExprError Unit
  | [] => (store, .ok ())
  | statement :: statements =>
      match statement.run context store with
      | .ok store => runAll context store statements
      | .error error => (store, .error error)

end HttpDoctest
