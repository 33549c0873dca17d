import HttpDoctest.Expression.Token
import HttpDoctest.Value.Basic

set_option autoImplicit false

/-! # The syntax of expressions

The tree of an expression, and statements: expressions evaluated for nothing but their errors,
and assignments. Only a member of `this` or of the store can be assigned to, so an assignment
names one of the two and a key.
-/

namespace HttpDoctest

/-- An operator in front of its operand. -/
inductive UnaryOp where
  | not
  | negate
  | plus
  | typeOf
deriving DecidableEq, Repr

/-- An operator between its operands. -/
inductive BinaryOp where
  | add
  | subtract
  | multiply
  | divide
  | remainder
  | less
  | lessEqual
  | greater
  | greaterEqual
  | equal
  | notEqual
  | strictEqual
  | strictNotEqual
  | and
  | or
deriving DecidableEq, Repr

namespace BinaryOp

/-- How tightly an operator binds. All operators of one strength group to the left. -/
def precedence : BinaryOp → Nat
  | or => 1
  | and => 2
  | equal => 3
  | notEqual => 3
  | strictEqual => 3
  | strictNotEqual => 3
  | less => 4
  | lessEqual => 4
  | greater => 4
  | greaterEqual => 4
  | add => 5
  | subtract => 5
  | multiply => 6
  | divide => 6
  | remainder => 6

/-- The operator that a symbol stands for between two operands. -/
def ofSymbol? : Symbol → Option BinaryOp
  | .or => some or
  | .and => some and
  | .equal => some equal
  | .notEqual => some notEqual
  | .strictEqual => some strictEqual
  | .strictNotEqual => some strictNotEqual
  | .less => some less
  | .lessEqual => some lessEqual
  | .greater => some greater
  | .greaterEqual => some greaterEqual
  | .plus => some add
  | .minus => some subtract
  | .star => some multiply
  | .slash => some divide
  | .percent => some remainder
  | _ => none

end BinaryOp

/-- An expression. -/
inductive Expr where
  | literal (value : Value)
  | array (items : List Expr)
  | this
  | identifier (name : String)
  | member (object key : Expr)
  | call (object : Expr) (method : String) (arguments : List Expr)
  | unary (op : UnaryOp) (operand : Expr)
  | binary (op : BinaryOp) (left right : Expr)
  | conditional (test consequent alternate : Expr)

instance : Inhabited Expr := ⟨.this⟩

/-- The name of the store in expressions. -/
def storeName : String := "store"

/-- The expression that an identifier is. Some names are literals. -/
def Expr.ofName (name : String) : Expr :=
  if name = "true" then .literal (.bool true)
  else if name = "false" then .literal (.bool false)
  else if name = "null" then .literal .null
  else if name = "undefined" then .literal .undefined
  else if name = "NaN" then .literal (.number Number.nan)
  else if name = "Infinity" then .literal (.number Number.infinity)
  else if name = "this" then .this
  else .identifier name

/-- What has members that can be assigned to. -/
inductive Owner where
  | this
  | store
deriving DecidableEq, Repr

/-- The one of the two that an expression names, if it names one. -/
def Expr.owner? : Expr → Option Owner
  | .this => some .this
  | .identifier name => if name = storeName then some .store else none
  | _ => none

/-- A member that can be assigned to. -/
structure Place where
  owner : Owner
  key : Expr

/-- The place that an expression names, if it names one. -/
def Expr.place? : Expr → Option Place
  | .member object key => object.owner?.map fun owner => ⟨owner, key⟩
  | _ => none

/-- A part of a side effect. -/
inductive Statement where
  | evaluate (expression : Expr)
  | assign (place : Place) (value : Expr)

end HttpDoctest
