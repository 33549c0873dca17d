import HttpDoctest.Expression.Trailer
import HttpDoctest.Proofs.Expression.Statements
import HttpDoctest.Proofs.Run.Course
import Mathlib.Control.Monad.Basic

set_option autoImplicit false

/-! # Side effects one after the other

Two sources with a semicolon between them are one source, with the statements of the first and
then those of the second. Carrying it out is carrying out the first and, unless it fails, the
second with the store that the first left (`sideEffects_compose`).
-/

namespace HttpDoctest

/-! ## Compiling -/

theorem SideEffect.compile_eq_ok_iff {source : String} {effect : SideEffect} :
    compile source = .ok effect ↔
      effect.source = source ∧ ∃ tokens, Token.ofSource source = .ok tokens ∧
        Grammar.statements tokens = .ok effect.statements := by
  rw [compile, bind_eq_ok_iff]
  constructor
  · rintro ⟨statements, hstatements, h⟩
    cases h
    exact ⟨rfl, bind_eq_ok_iff.1 hstatements⟩
  · rintro ⟨rfl, hstatements⟩
    exact ⟨effect.statements, bind_eq_ok_iff.2 hstatements, rfl⟩

theorem SideEffect.compile_append {a b : String} {first second : SideEffect}
    (hfirst : compile a = .ok first) (hsecond : compile b = .ok second) :
    compile (a ++ ";" ++ b) = .ok ⟨a ++ ";" ++ b, first.statements ++ second.statements⟩ := by
  obtain ⟨-, tokens, htokens, hfirst⟩ := compile_eq_ok_iff.1 hfirst
  obtain ⟨-, behind, hbehind, hsecond⟩ := compile_eq_ok_iff.1 hsecond
  rw [Grammar.statements_eq_ok_iff_isStatements] at hfirst hsecond
  rw [Token.ofSource] at htokens hbehind
  -- the second source is read as if it stood alone, but for the places of its tokens
  let n := Text.byteLength a.toList
  have hmoved : Token.scan (0 + n + 1) b.toList = .ok (behind.map (Token.shift (n + 1))) := by
    rw [Nat.add_assoc, Token.scan_shift, hbehind]
    rfl
  have hscan : Token.ofSource (a ++ ";" ++ b) =
      .ok (tokens ++ ⟨.symbol .semicolon, 0 + n⟩ :: behind.map (Token.shift (n + 1))) := by
    have htext : (a ++ ";" ++ b).toList = a.toList ++ ';' :: b.toList := by simp
    rw [Token.ofSource, htext, Token.scan_append htokens, hmoved]
    rfl
  refine compile_eq_ok_iff.2 ⟨rfl, _, hscan, ?_⟩
  exact Grammar.statements_eq_ok_iff_isStatements.2 (hfirst.append (hsecond.shift (n + 1)) _)

/-! ## Carrying out -/

section Run

variable {context : Context} {store store' : Store} {error : ExprError}

/-- Statements behind others are run unless one of these fails. -/
theorem Statement.runAll_append (front back : List Statement) :
    runAll context store (front ++ back) =
      match runAll context store front with
      | (between, .ok ()) => runAll context between back
      | (between, .error error) => (between, .error error) := by
  induction front generalizing store with
  | nil => rfl
  | cons statement front ih =>
      rw [List.cons_append, runAll, runAll]
      cases statement.run context store with
      | error error => rfl
      | ok between => exact ih

/-- Statements fail at the one in front of which all succeed, with the store that these leave. -/
theorem Statement.runAll_eq_error_iff {statements : List Statement} :
    runAll context store statements = (store', .error error) ↔
      ∃ done failing undone, statements = done ++ failing :: undone ∧
        runAll context store done = (store', .ok ()) ∧
        failing.run context store' = .error error := by
  constructor
  · intro h
    rcases Course.exists_statements context store statements with
      ⟨between, hdone⟩ | ⟨done, failing, undone, between, error', rfl, hdone, hfailing⟩
    · cases (Course.runAll_of_completed hdone).symm.trans h
    · cases (Course.runAll_of_failed hdone hfailing).symm.trans h
      exact ⟨done, failing, undone, rfl, Course.runAll_of_completed hdone, hfailing⟩
  · rintro ⟨done, failing, undone, rfl, hdone, hfailing⟩
    rw [runAll_append, hdone]
    show runAll context store' (failing :: undone) = (store', .error error)
    rw [runAll, hfailing]

end Run

/-- **Side effects compose.** What compiles by itself compiles in a row, to the same statements.
Carried out, the second follows where the first leaves the store, unless the first fails. A side
effect fails at the first statement that does, and the store is then the one that the statements
in front of it leave. -/
theorem sideEffects_compose (a b : String) (first second : SideEffect)
    (hfirst : SideEffect.compile a = .ok first) (hsecond : SideEffect.compile b = .ok second) :
    ∃ joint, SideEffect.compile (a ++ ";" ++ b) = .ok joint ∧
      joint.statements = first.statements ++ second.statements ∧
      (∀ (context : Context) (store : Store),
        joint.execute context store =
          match first.execute context store with
          | (between, .ok ()) => second.execute context between
          | (between, .error error) => (between, .error error)) ∧
      ∀ (effect : SideEffect) (context : Context) (store store' : Store) (error : ExprError),
        effect.execute context store = (store', .error error) ↔
          ∃ done failing undone, effect.statements = done ++ failing :: undone ∧
            Statement.runAll context store done = (store', .ok ()) ∧
            failing.run context store' = .error error := by
  refine ⟨_, SideEffect.compile_append hfirst hsecond, rfl, ?_, ?_⟩
  · intro context store
    exact Statement.runAll_append first.statements second.statements
  · intro effect context store store' error
    exact Statement.runAll_eq_error_iff

/-- The semicolon in a text does not part statements. What is assigned stays when the assignment
behind it fails. -/
theorem assignment_stays_when_next_fails :
    let context : Context := ⟨200, .undefined, "", .empty⟩
    ∃ joint, SideEffect.compile ("store.a = 'x;'" ++ ";" ++ "store.b = c") = .ok joint ∧
      joint.execute context .empty =
        (Table.empty.put "a" (.string "x;"), .error (.unknownIdentifier "c")) := by
  intro context
  have hfirst : SideEffect.compile "store.a = 'x;'" = .ok ⟨"store.a = 'x;'",
      [.assign ⟨.store, .literal (.string "a")⟩ (.literal (.string "x;"))]⟩ :=
    SideEffect.compile_eq_ok_iff.2 ⟨rfl,
      [⟨.identifier "store", 0⟩, ⟨.symbol .dot, 5⟩, ⟨.identifier "a", 6⟩, ⟨.symbol .assign, 8⟩,
        ⟨.string "x;", 10⟩], by decide +kernel, by cbv⟩
  have hsecond : SideEffect.compile "store.b = c" = .ok ⟨"store.b = c",
      [.assign ⟨.store, .literal (.string "b")⟩ (.identifier "c")]⟩ :=
    SideEffect.compile_eq_ok_iff.2 ⟨rfl,
      [⟨.identifier "store", 0⟩, ⟨.symbol .dot, 5⟩, ⟨.identifier "b", 6⟩, ⟨.symbol .assign, 8⟩,
        ⟨.identifier "c", 10⟩], by decide +kernel, by cbv⟩
  obtain ⟨joint, hjoint, -, hexecute, -⟩ := sideEffects_compose _ _ _ _ hfirst hsecond
  exact ⟨joint, hjoint, (hexecute context .empty).trans (by rfl)⟩

end HttpDoctest
