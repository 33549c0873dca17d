import HttpDoctest.Expression.Evaluation
import HttpDoctest.Expression.Grammar

set_option autoImplicit false

/-! # Assertions and side effects

The two kinds of source that a request block carries. Both are compiled before the request is
sent, and carried out once its response is there.
-/

namespace HttpDoctest

/-- An expression that decides whether a request passes. -/
structure Assertion where
  source : String
  expression : Expr

/-- Statements that write to the store. -/
structure SideEffect where
  source : String
  statements : List Statement

/-- Compiles the source of an assertion. -/
def Assertion.compile (source : String) : Except ExprError Assertion :=
  return ⟨source, ← Expr.ofSource source⟩

/-- Whether an assertion holds: any value that counts as true will do. -/
def Assertion.holds (assertion : Assertion) (scope : Scope) : Except ExprError Bool :=
  return (← assertion.expression.eval scope).isTruthy

/-- Compiles the source of a side effect. -/
def SideEffect.compile (source : String) : Except ExprError SideEffect :=
  return ⟨source, ← Statement.listOfSource source⟩

/-- Carries out a side effect. The store keeps what was assigned before a failure. -/
def SideEffect.execute (effect : SideEffect) (context : Context) (store : Store) :
    Store × Except ExprError Unit :=
  Statement.runAll context store effect.statements

end HttpDoctest
