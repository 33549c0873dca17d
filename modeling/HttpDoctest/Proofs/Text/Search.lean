import HttpDoctest.Text.Search
import Mathlib.Order.Bounds.Basic

set_option autoImplicit false

/-! # Where a text stands in another

A list stands in another one behind as many items as there are in front of it (`Stands`). A search
finds the first such place, and fails only if there is none (`indexOf?_eq_some_iff`,
`indexOf?_eq_none_iff`).
-/

namespace HttpDoctest.Text

section

variable {α : Type} {needle list : List α} {a : α} {i : Nat}

/-- Whether `needle` stands in `list` behind the first `i` items. -/
def Stands (needle list : List α) (i : Nat) : Prop :=
  ∃ front rest, list = front ++ (needle ++ rest) ∧ front.length = i

theorem stands_zero : Stands needle list 0 ↔ needle <+: list := by
  constructor
  · rintro ⟨front, rest, rfl, hfront⟩
    rw [List.length_eq_zero_iff.1 hfront]
    exact ⟨rest, rfl⟩
  · rintro ⟨rest, rfl⟩
    exact ⟨[], rest, rfl, rfl⟩

theorem stands_cons_succ : Stands needle (a :: list) (i + 1) ↔ Stands needle list i := by
  constructor
  · rintro ⟨front, rest, hlist, hfront⟩
    obtain ⟨b, front, rfl⟩ := List.exists_cons_of_length_eq_add_one hfront
    obtain ⟨-, hlist⟩ := List.cons.inj hlist
    exact ⟨front, rest, hlist, Nat.succ.inj hfront⟩
  · rintro ⟨front, rest, rfl, rfl⟩
    exact ⟨a :: front, rest, rfl, rfl⟩

theorem not_stands_nil_succ : ¬Stands needle [] (i + 1) := by
  rintro ⟨front, rest, hlist, hfront⟩
  obtain ⟨rfl, -⟩ := List.append_eq_nil_iff.1 hlist.symm
  cases hfront

/-- A list stands where the other one has its items. -/
theorem stands_iff_getElem? :
    Stands needle list i ↔
      i + needle.length ≤ list.length ∧ ∀ j < needle.length, list[i + j]? = needle[j]? := by
  constructor
  · rintro ⟨front, rest, rfl, rfl⟩
    refine ⟨?_, fun j hj => ?_⟩
    · simp only [List.length_append]
      omega
    · rw [List.getElem?_append_right (Nat.le_add_right _ j), Nat.add_sub_cancel_left,
        List.getElem?_append_left hj]
  · rintro ⟨hlength, hitems⟩
    have hneedle : needle = (list.drop i).take needle.length := by
      refine List.ext_getElem? fun j => ?_
      by_cases hj : j < needle.length
      · rw [List.getElem?_take_of_lt hj, List.getElem?_drop, hitems j hj]
      · have hend : ((list.drop i).take needle.length).length ≤ j := by
          rw [List.length_take]
          omega
        rw [List.getElem?_eq_none (Nat.not_lt.1 hj), List.getElem?_eq_none hend]
    refine ⟨list.take i, (list.drop i).drop needle.length, ?_, ?_⟩
    · calc list = list.take i ++ list.drop i := (List.take_append_drop i list).symm
        _ = list.take i ++
            ((list.drop i).take needle.length ++ (list.drop i).drop needle.length) := by
          rw [List.take_append_drop needle.length]
        _ = list.take i ++ (needle ++ (list.drop i).drop needle.length) := by rw [← hneedle]
    · rw [List.length_take]
      omega

end

/-! ## The search -/

variable {needle text : List Char} {i : Nat}

theorem not_stands_of_indexOf? (h : indexOf? needle text = none) (i : Nat) :
    ¬Stands needle text i := by
  fun_induction indexOf? needle text generalizing i with
  | case1 => cases h
  | case2 hneedle =>
      cases i with
      | zero =>
          rw [stands_zero, List.prefix_nil]
          rintro rfl
          exact hneedle rfl
      | succ i => exact not_stands_nil_succ
  | case3 => cases h
  | case4 c text hfront ih =>
      cases i with
      | zero => rwa [stands_zero, ← List.isPrefixOf_iff_prefix]
      | succ i =>
          rw [stands_cons_succ]
          exact ih (Option.map_eq_none_iff.1 h) i

/-- What a search finds is the first place. -/
theorem isLeast_of_indexOf? (h : indexOf? needle text = some i) :
    IsLeast {k | Stands needle text k} i := by
  fun_induction indexOf? needle text generalizing i with
  | case1 hneedle =>
      obtain rfl := Option.some.inj h
      rw [List.isEmpty_iff.1 hneedle]
      exact ⟨stands_zero.2 List.nil_prefix, fun k _ => Nat.zero_le k⟩
  | case2 => cases h
  | case3 c text hfront =>
      obtain rfl := Option.some.inj h
      exact ⟨stands_zero.2 (List.isPrefixOf_iff_prefix.1 hfront), fun k _ => Nat.zero_le k⟩
  | case4 c text hfront ih =>
      obtain ⟨i, hfound, rfl⟩ := Option.map_eq_some_iff.1 h
      obtain ⟨hstands, hleast⟩ := ih hfound
      refine ⟨stands_cons_succ.2 hstands, fun k hk => ?_⟩
      cases k with
      | zero => exact absurd (List.isPrefixOf_iff_prefix.2 (stands_zero.1 hk)) hfront
      | succ k => exact Nat.succ_le_succ (hleast (stands_cons_succ.1 hk))

theorem indexOf?_eq_some_iff :
    indexOf? needle text = some i ↔ IsLeast {k | Stands needle text k} i := by
  refine ⟨isLeast_of_indexOf?, fun hleast => ?_⟩
  cases hfound : indexOf? needle text with
  | none => exact absurd hleast.1 (not_stands_of_indexOf? hfound i)
  | some k => rw [(isLeast_of_indexOf? hfound).unique hleast]

theorem indexOf?_eq_none_iff :
    indexOf? needle text = none ↔ ∀ i, ¬Stands needle text i := by
  refine ⟨not_stands_of_indexOf?, fun hnowhere => ?_⟩
  cases hfound : indexOf? needle text with
  | none => rfl
  | some i => exact absurd (isLeast_of_indexOf? hfound).1 (hnowhere i)

/-- A text is found at once just where it is a prefix. -/
theorem indexOf?_eq_some_zero_iff : indexOf? needle text = some 0 ↔ needle <+: text := by
  rw [indexOf?_eq_some_iff, ← stands_zero]
  exact ⟨And.left, fun hstands => ⟨hstands, fun k _ => Nat.zero_le k⟩⟩

/-- A suffix is what stands at the end. -/
theorem isSuffix_iff_stands :
    needle <:+ text ↔ ∃ i, i + needle.length = text.length ∧ Stands needle text i := by
  constructor
  · rintro ⟨front, rfl⟩
    exact ⟨front.length, (List.length_append ..).symm, front, [], by simp, rfl⟩
  · rintro ⟨i, hlength, front, rest, rfl, rfl⟩
    have hrest : rest = [] := by
      rw [← List.length_eq_zero_iff]
      simp only [List.length_append] at hlength
      omega
    rw [hrest, List.append_nil]
    exact List.suffix_append front needle

end HttpDoctest.Text
