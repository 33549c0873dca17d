set_option autoImplicit false

/-! # Searching a text

Prefixes, suffixes and occurrences of one text in another, counted in characters, and the
number of bytes a text takes in UTF-8.
-/

namespace HttpDoctest.Text

/-- What follows `start` in `text`, if `text` begins with `start`. -/
def afterPrefix? : List Char → List Char → Option (List Char)
  | [], text => some text
  | _ :: _, [] => none
  | p :: start, c :: text => if p = c then afterPrefix? start text else none

theorem append_of_afterPrefix? {start text rest : List Char}
    (h : afterPrefix? start text = some rest) : start ++ rest = text := by
  fun_induction afterPrefix? start text with
  | case1 text => simpa using h.symm
  | case2 => simp at h
  | case3 start c text ih => rw [List.cons_append, ih h]
  | case4 => simp at h

theorem afterPrefix?_append (start rest : List Char) :
    afterPrefix? start (start ++ rest) = some rest := by
  induction start with
  | nil => rfl
  | cons c start ih => rw [List.cons_append, afterPrefix?, if_pos rfl, ih]

/-- The number of characters in front of the first occurrence of `needle` in `text`. -/
def indexOf? (needle : List Char) : List Char → Option Nat
  | [] => if needle.isEmpty then some 0 else none
  | c :: text =>
      if needle.isPrefixOf (c :: text) then some 0
      else (indexOf? needle text).map (· + 1)

/-- Whether `needle` occurs in `text`. -/
def occursIn (needle text : List Char) : Bool :=
  (indexOf? needle text).isSome

/-- The number of bytes of a text in UTF-8. -/
def byteLength : List Char → Nat
  | [] => 0
  | c :: text => c.utf8Size + byteLength text

@[simp] theorem byteLength_nil : byteLength [] = 0 := rfl

@[simp] theorem byteLength_cons (c : Char) (text : List Char) :
    byteLength (c :: text) = c.utf8Size + byteLength text := rfl

@[simp] theorem byteLength_append (a b : List Char) :
    byteLength (a ++ b) = byteLength a + byteLength b := by
  induction a with
  | nil => simp
  | cons c a ih => simp [ih, Nat.add_assoc]

end HttpDoctest.Text
