import HttpDoctest.Request.Headers
import HttpDoctest.Text.Blank
import HttpDoctest.Value.Text

set_option autoImplicit false

/-! # Templates

Texts with placeholders. A placeholder is a key between double braces, with blanks around it
as one likes; the key is not empty, holds no brace, and neither starts nor ends with a blank.
All placeholders of a text are found before any is filled, so what is filled in is never
searched again.
-/

namespace HttpDoctest

/-- What to do with a placeholder whose key has no value in the store. -/
inductive MissingValue where
  /-- Write the text of `undefined`. -/
  | lenient
  /-- Give up. -/
  | strict
deriving DecidableEq, Repr

/-- A placeholder has no value. -/
structure UndefinedPlaceholder where
  key : String
deriving DecidableEq, Repr

namespace Template

/-- A part of a template: a character that stays, or a placeholder. -/
inductive Piece where
  | literal (c : Char)
  | placeholder (key : String)
deriving DecidableEq, Repr

/-- Whether `c` may stand in a key. -/
def isKeyChar (c : Char) : Bool :=
  c != '{' && c != '}'

/-- The key of the placeholder at the front of a text, and what follows the placeholder. -/
def placeholder? : List Char → Option (String × List Char)
  | '{' :: '{' :: text =>
      let inner := Text.trimStart text
      match Text.trimEnd (inner.takeWhile isKeyChar), inner.dropWhile isKeyChar with
      | c :: key, '}' :: '}' :: rest => some (String.ofList (c :: key), rest)
      | _, _ => none
  | _ => none

theorem length_of_placeholder? {text rest : List Char} {key : String}
    (h : placeholder? text = some (key, rest)) : rest.length < text.length := by
  unfold placeholder? at h
  split at h
  · next tail =>
    dsimp only at h
    split at h
    · next heq =>
      cases h
      have h₁ := (List.dropWhile_sublist (l := Text.trimStart tail) isKeyChar).length_le
      have h₂ : (Text.trimStart tail).length ≤ tail.length :=
        (List.dropWhile_sublist _).length_le
      rw [heq] at h₁
      simp only [List.length_cons] at *
      omega
    · cases h
  · cases h

/-- The pieces of a text, from left to right. -/
def pieces (text : List Char) : List Piece :=
  match h : placeholder? text with
  | some (key, rest) =>
      have := length_of_placeholder? h
      .placeholder key :: pieces rest
  | none => match text with
    | [] => []
    | c :: tail => .literal c :: pieces tail
termination_by text.length

theorem pieces_nil : pieces [] = [] := by
  rw [pieces]; rfl

/-- A placeholder at the front is one piece. -/
theorem pieces_of_placeholder {text rest : List Char} {key : String}
    (h : placeholder? text = some (key, rest)) :
    pieces text = .placeholder key :: pieces rest := by
  rw [pieces]
  split
  · next hr => rw [h] at hr; cases hr; rfl
  · next hn => rw [h] at hn; cases hn

/-- A character that starts no placeholder is a piece of its own. -/
theorem pieces_cons_of_none {c : Char} {tail : List Char}
    (h : placeholder? (c :: tail) = none) : pieces (c :: tail) = .literal c :: pieces tail := by
  rw [pieces]
  split
  · next hr => rw [h] at hr; cases hr
  · rfl

/-- The text that a piece becomes. -/
def Piece.fill (store : Store) : Piece → List Char
  | literal c => [c]
  | placeholder key => ((store.get? key).getD .undefined).text.toList

/-- The key of a piece if the store has no value for it. -/
def Piece.missing? (store : Store) : Piece → Option String
  | literal _ => none
  | placeholder key => if store.contains key then none else some key

/-- The text with every placeholder filled from the store. -/
def fill (store : Store) (text : List Char) : List Char :=
  (pieces text).flatMap (·.fill store)

/-- The first key of the text that has no value in the store. -/
def missing? (store : Store) (text : List Char) : Option String :=
  (pieces text).findSome? (·.missing? store)

/-- Fills a text. -/
def interpolate (mode : MissingValue) (store : Store) (text : String) :
    Except UndefinedPlaceholder String :=
  match mode, missing? store text.toList with
  | .strict, some key => .error ⟨key⟩
  | _, _ => .ok (String.ofList (fill store text.toList))

/-- Fills a text that may be absent. -/
def interpolate? (mode : MissingValue) (store : Store) :
    Option String → Except UndefinedPlaceholder (Option String)
  | none => .ok none
  | some text => return some (← interpolate mode store text)

/-- Fills the names and values of header entries, name before value. -/
def interpolateEntries (mode : MissingValue) (store : Store) :
    List (String × String) → Except UndefinedPlaceholder (List (String × String))
  | [] => .ok []
  | (name, value) :: entries => do
      let name ← interpolate mode store name
      let value ← interpolate mode store value
      return (name, value) :: (← interpolateEntries mode store entries)

/-- Fills headers. Of names that become equal, the first keeps its place and the last its
value. -/
def interpolateHeaders (mode : MissingValue) (store : Store) (headers : Headers) :
    Except UndefinedPlaceholder Headers :=
  return Table.ofList (← interpolateEntries mode store headers.entries)

end Template

end HttpDoctest
