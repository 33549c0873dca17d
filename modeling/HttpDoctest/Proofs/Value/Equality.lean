import HttpDoctest.Proofs.Value.Parts
import Mathlib

set_option autoImplicit false

/-! # Equality of values

Strict equality is symmetric and transitive, and a value equals itself unless it holds what is not a
number (`strictEq_self_iff`). The order of the fields of an object does not matter, at any depth
(`strictEq_of_reordered`). Loose equality is symmetric and holds wherever strict equality does. It
says more only of values that are built with different constructors.

Symmetry rests on names being pairwise different within an object: where as many fields stand on
both sides and each on the left has an equal one on the right, none on the right is left over. What
holds of the equality of doubles is in `Batteries.Data.Float.Lemmas`, which no module of Mathlib
brings but the whole.
-/

namespace HttpDoctest.Value

variable {v w u : Value}

/-! ## Strict equality, constructor by constructor -/

theorem strictEqItems_iff {xs ys : List Value} :
    strictEqItems xs ys = true ↔ List.Forall₂ (fun x y => x.strictEq y = true) xs ys := by
  induction xs generalizing ys with
  | nil => cases ys <;> simp [strictEqItems]
  | cons x xs ih => cases ys <;> simp [strictEqItems, ih]

theorem strictEqFields_iff {fields others : List (String × Value)} :
    strictEqFields fields others = true ↔
      ∀ field ∈ fields, ∃ other, others.lookup field.1 = some other ∧
        field.2.strictEq other = true := by
  induction fields with
  | nil => simp [strictEqFields]
  | cons field fields ih =>
      obtain ⟨name, value⟩ := field
      rw [strictEqFields, Bool.and_eq_true, ih, List.forall_mem_cons]
      refine and_congr_left fun _ => ?_
      cases others.lookup name with
      | none => simp
      | some other => simp

/-- What strictly equal values hold. -/
inductive Alike : Value → Value → Prop
  | undefined : Alike undefined undefined
  | null : Alike null null
  | bool (b : Bool) : Alike (bool b) (bool b)
  | number {x y : Float} : (x == y) = true → Alike (number x) (number y)
  | string (s : String) : Alike (string s) (string s)
  | array {xs ys : List Value} :
      List.Forall₂ (fun x y => x.strictEq y = true) xs ys → Alike (array xs) (array ys)
  | object {fields others : List (String × Value)} :
      fields.length = others.length →
      (∀ field ∈ fields, ∃ other, others.lookup field.1 = some other ∧
        field.2.strictEq other = true) →
      Alike (object fields) (object others)

theorem strictEq_iff_alike : v.strictEq w = true ↔ Alike v w := by
  constructor
  · fun_cases strictEq v w with
    | case1 => exact fun _ => .undefined
    | case2 => exact fun _ => .null
    | case3 a b => exact fun h => beq_iff_eq.1 h ▸ .bool a
    | case4 x y => exact .number
    | case5 s t => exact fun h => beq_iff_eq.1 h ▸ .string s
    | case6 xs ys => exact fun h => .array (strictEqItems_iff.1 h)
    | case7 fs gs =>
        intro h
        obtain ⟨hlength, hfields⟩ := Bool.and_eq_true_iff.1 h
        exact .object (beq_iff_eq.1 hlength) (strictEqFields_iff.1 hfields)
    | case8 => exact fun h => absurd h Bool.false_ne_true
  · intro h
    cases h with
    | undefined => rfl
    | null => rfl
    | bool b => exact beq_self_eq_true b
    | number h => exact h
    | string s => exact beq_self_eq_true s
    | array h => exact strictEqItems_iff.2 h
    | object hlength hfields =>
        exact Bool.and_eq_true_iff.2 ⟨beq_iff_eq.2 hlength, strictEqFields_iff.2 hfields⟩

/-! ## Symmetry and transitivity -/

theorem strictEq_symm (hv : v.WellFormed) (h : v.strictEq w = true) : w.strictEq v = true := by
  induction v using Value.nested_induction generalizing w with
  | leaf v hleaf =>
      cases strictEq_iff_alike.1 h with
      | undefined => rfl
      | null => rfl
      | bool => exact h
      | number h => exact BEq.symm h
      | string => exact h
      | array => cases hleaf
      | object => cases hleaf
  | array xs ih =>
      cases strictEq_iff_alike.1 h with
      | @array _ ys hitems =>
        obtain ⟨hlength, hitems⟩ := List.forall₂_iff_get.1 hitems
        refine strictEq_iff_alike.2 (.array (List.forall₂_iff_get.2 ⟨hlength.symm, ?_⟩))
        intro i hys hxs
        have hmem : xs.get ⟨i, hxs⟩ ∈ xs := List.get_mem _ _
        exact ih _ hmem (wellFormed_array.1 hv _ hmem) (hitems i hxs hys)
  | object fields ih =>
      cases strictEq_iff_alike.1 h with
      | @object _ others hlength hfields =>
        obtain ⟨hnodup, hv⟩ := wellFormed_object.1 hv
        have hsubset : fields.map Prod.fst ⊆ others.map Prod.fst := by
          intro name hname
          obtain ⟨field, hfield, rfl⟩ := List.mem_map.1 hname
          obtain ⟨other, hother, -⟩ := hfields field hfield
          exact List.mem_map.2 ⟨_, mem_of_lookup_eq_some hother, rfl⟩
        -- different names on the left, and as many on the right: there are no others
        have hperm : (fields.map Prod.fst).Perm (others.map Prod.fst) :=
          (List.subperm_of_subset hnodup hsubset).perm_of_length_le (by simp [hlength])
        refine strictEq_iff_alike.2 (.object hlength.symm fun other hmem => ?_)
        obtain ⟨field, hfield, hname⟩ :=
          List.mem_map.1 (hperm.mem_iff.2 (List.mem_map_of_mem hmem))
        obtain ⟨found, hfound, heq⟩ := hfields field hfield
        rw [hname, lookup_of_mem (hperm.nodup_iff.1 hnodup) hmem] at hfound
        cases hfound
        exact ⟨field.2, lookup_of_mem hnodup (hname ▸ hfield), ih _ hfield (hv _ hfield) heq⟩

theorem strictEq_comm (hv : v.WellFormed) (hw : w.WellFormed) : v.strictEq w = w.strictEq v :=
  Bool.eq_iff_iff.2 ⟨strictEq_symm hv, strictEq_symm hw⟩

theorem strictEq_trans (h : v.strictEq w = true) (h' : w.strictEq u = true) :
    v.strictEq u = true := by
  induction v using Value.nested_induction generalizing w u with
  | leaf v hleaf =>
      cases strictEq_iff_alike.1 h with
      | undefined => exact h'
      | null => exact h'
      | bool => exact h'
      | number h =>
        cases strictEq_iff_alike.1 h' with
        | number h' => exact BEq.trans h h'
      | string => exact h'
      | array => cases hleaf
      | object => cases hleaf
  | array xs ih =>
      cases strictEq_iff_alike.1 h with
      | @array _ ys hitems =>
        cases strictEq_iff_alike.1 h' with
        | @array _ zs hitems' =>
          obtain ⟨hlength, hitems⟩ := List.forall₂_iff_get.1 hitems
          obtain ⟨hlength', hitems'⟩ := List.forall₂_iff_get.1 hitems'
          refine strictEq_iff_alike.2
            (.array (List.forall₂_iff_get.2 ⟨hlength.trans hlength', ?_⟩))
          intro i hxs hzs
          have hys : i < ys.length := hlength ▸ hxs
          exact ih _ (List.get_mem _ _) (hitems i hxs hys) (hitems' i hys hzs)
  | object fields ih =>
      cases strictEq_iff_alike.1 h with
      | @object _ others hlength hfields =>
        cases strictEq_iff_alike.1 h' with
        | @object _ lasts hlength' hfields' =>
          refine strictEq_iff_alike.2 (.object (hlength.trans hlength') fun field hmem => ?_)
          obtain ⟨other, hother, heq⟩ := hfields field hmem
          obtain ⟨last, hlast, heq'⟩ := hfields' _ (mem_of_lookup_eq_some hother)
          exact ⟨last, hlast, ih _ hmem heq heq'⟩

/-! ## Equality with oneself -/

theorem beq_self_iff_isNaN {x : Float} : (x == x) = true ↔ x.isNaN = false := by
  rw [Float.beq_self_iff, Float.isNaN_eq_decide_eq_nan, decide_eq_false_iff_not]

/-- A value equals itself if no number in it is the one that is not a number. -/
theorem strictEq_self_iff (hv : v.WellFormed) :
    v.strictEq v = true ↔ ∀ x, Within (number x) v → x.isNaN = false := by
  induction v using Value.nested_induction with
  | leaf v hleaf =>
      have hwithin {x : Float} (h : Within (number x) v) : number x = v :=
        h.eq_of_isContainer hleaf
      constructor
      · intro h x hx
        cases hwithin hx
        exact beq_self_iff_isNaN.1 h
      · intro h
        cases v with
        | undefined => rfl
        | null => rfl
        | bool b => exact beq_self_eq_true b
        | number x => exact beq_self_iff_isNaN.2 (h x .self)
        | string s => exact beq_self_eq_true s
        | array => cases hleaf
        | object => cases hleaf
  | array items ih =>
      rw [strictEq, strictEqItems_iff, List.forall₂_same]
      have hitems := wellFormed_array.1 hv
      constructor
      · intro h x hx
        cases hx with
        | item hitem hx => exact (ih _ hitem (hitems _ hitem)).1 (h _ hitem) x hx
      · intro h item hitem
        exact (ih _ hitem (hitems _ hitem)).2 fun x hx => h x (.item hitem hx)
  | object fields ih =>
      rw [strictEq, beq_self_eq_true, Bool.true_and, strictEqFields_iff]
      obtain ⟨hnodup, hfields⟩ := wellFormed_object.1 hv
      constructor
      · intro h x hx
        cases hx with
        | field hfield hx =>
          -- the field that is found under the name is the field itself
          obtain ⟨other, hother, heq⟩ := h _ hfield
          rw [lookup_of_mem hnodup hfield] at hother
          cases hother
          exact (ih _ hfield (hfields _ hfield)).1 heq x hx
      · intro h field hfield
        exact ⟨field.2, lookup_of_mem hnodup hfield,
          (ih _ hfield (hfields _ hfield)).2 fun x hx => h x (.field hfield hx)⟩

/-! ## The order of fields -/

/-- Whether two values differ by nothing but the order of fields, in any of the objects in them. -/
inductive Reordered : Value → Value → Prop
  | refl (value : Value) : Reordered value value
  | trans {value between other : Value} :
      Reordered value between → Reordered between other → Reordered value other
  | fields {fields others : List (String × Value)} :
      fields.Perm others → Reordered (object fields) (object others)
  | item {item other : Value} (front back : List Value) :
      Reordered item other →
      Reordered (array (front ++ item :: back)) (array (front ++ other :: back))
  | field {value other : Value} (name : String) (front back : List (String × Value)) :
      Reordered value other →
      Reordered (object (front ++ (name, value) :: back)) (object (front ++ (name, other) :: back))

theorem Reordered.wellFormed (h : Reordered v w) (hv : v.WellFormed) : w.WellFormed := by
  induction h with
  | refl => exact hv
  | trans _ _ ih ih' => exact ih' (ih hv)
  | fields hperm =>
      obtain ⟨hnodup, hfields⟩ := wellFormed_object.1 hv
      exact wellFormed_object.2 ⟨(hperm.map Prod.fst).nodup_iff.1 hnodup,
        fun field hfield => hfields field (hperm.mem_iff.2 hfield)⟩
  | item front back _ ih =>
      rw [wellFormed_array, List.forall_mem_append, List.forall_mem_cons] at hv ⊢
      exact ⟨hv.1, ih hv.2.1, hv.2.2⟩
  | field name front back _ ih =>
      rw [wellFormed_object, List.forall_mem_append, List.forall_mem_cons] at hv ⊢
      rw [List.map_append, List.map_cons] at hv ⊢
      exact ⟨hv.1, hv.2.1, ih hv.2.2.1, hv.2.2.2⟩

theorem strictEqItems_congr {x y : Value} (h : ∀ u, x.strictEq u = y.strictEq u)
    (front back others : List Value) :
    strictEqItems (front ++ x :: back) others = strictEqItems (front ++ y :: back) others := by
  induction front generalizing others with
  | nil =>
      cases others with
      | nil => rfl
      | cons other others => rw [List.nil_append, List.nil_append, strictEqItems, strictEqItems, h]
  | cons first front ih =>
      cases others with
      | nil => rfl
      | cons other others =>
        rw [List.cons_append, List.cons_append, strictEqItems, strictEqItems, ih]

theorem strictEqFields_congr {x y : Value} (h : ∀ u, x.strictEq u = y.strictEq u) (name : String)
    (front back others : List (String × Value)) :
    strictEqFields (front ++ (name, x) :: back) others =
      strictEqFields (front ++ (name, y) :: back) others := by
  rw [Bool.eq_iff_iff, strictEqFields_iff, strictEqFields_iff, List.forall_mem_append,
    List.forall_mem_append, List.forall_mem_cons, List.forall_mem_cons]
  simp only [h]

/-- The order of fields on the left side does not matter. -/
theorem Reordered.strictEq_left (h : Reordered v w) (u : Value) : v.strictEq u = w.strictEq u := by
  induction h generalizing u with
  | refl => rfl
  | trans _ _ ih ih' => exact (ih u).trans (ih' u)
  | fields hperm =>
      cases u with
      | object others =>
        rw [strictEq, strictEq, hperm.length_eq]
        congr 1
        rw [Bool.eq_iff_iff, strictEqFields_iff, strictEqFields_iff]
        exact forall_congr' fun field => imp_congr_left hperm.mem_iff
      | undefined | null | bool | number | string | array => rfl
  | item front back _ ih =>
      cases u with
      | array others => exact strictEqItems_congr ih front back others
      | undefined | null | bool | number | string | object => rfl
  | field name front back _ ih =>
      cases u with
      | object others =>
        rw [strictEq, strictEq, strictEqFields_congr ih, List.length_append, List.length_append]
        rfl
      | undefined | null | bool | number | string | array => rfl

/-- The order of fields does not matter on either side. -/
theorem strictEq_of_reordered (h : Reordered v w) (hv : v.WellFormed) (hu : u.WellFormed) :
    v.strictEq u = w.strictEq u ∧ u.strictEq v = u.strictEq w := by
  refine ⟨h.strictEq_left u, ?_⟩
  rw [strictEq_comm hu hv, h.strictEq_left u, strictEq_comm hu (h.wellFormed hv)]

/-! ## Loose equality -/

/-- Whether two values are built with the same constructor. -/
def SameConstructor : Value → Value → Prop
  | undefined, undefined => True
  | null, null => True
  | bool _, bool _ => True
  | number _, number _ => True
  | string _, string _ => True
  | array _, array _ => True
  | object _, object _ => True
  | _, _ => False

theorem sameConstructor_of_strictEq (h : v.strictEq w = true) : v.SameConstructor w := by
  cases strictEq_iff_alike.1 h <;> trivial

/-- Whether loose equality compares the two values as numbers, unless one of them is empty. -/
def comparedAsNumbers : Value → Value → Bool
  | number _, string _ => true
  | string _, number _ => true
  | bool _, _ => true
  | _, bool _ => true
  | _, _ => false

theorem comparedAsNumbers_comm : v.comparedAsNumbers w = w.comparedAsNumbers v := by
  cases v <;> cases w <;> rfl

theorem looseEq_eq : v.looseEq w =
    if v.isNullish || w.isNullish then v.isNullish && w.isNullish
    else if v.comparedAsNumbers w then v.toNumber == w.toNumber
    else v.strictEq w := by
  cases v <;> cases w <;> rfl

theorem looseEq_comm (hv : v.WellFormed) (hw : w.WellFormed) : v.looseEq w = w.looseEq v := by
  rw [looseEq_eq, looseEq_eq, Bool.or_comm, Bool.and_comm, comparedAsNumbers_comm, BEq.comm,
    strictEq_comm hv hw]

theorem bool_toNumber_beq {a b : Bool} : ((bool a).toNumber == (bool b).toNumber) = (a == b) := by
  cases a <;> cases b <;> decide +kernel

/-- Loose equality says nothing else than strict equality of values built alike. -/
theorem looseEq_of_sameConstructor (h : v.SameConstructor w) : v.looseEq w = v.strictEq w := by
  cases v with
  | bool a =>
      cases w with
      | bool b => exact bool_toNumber_beq
      | undefined | null | number | string | array | object => cases h
  | undefined | null | number | string | array | object => cases w <;> first | rfl | cases h

theorem looseEq_of_strictEq (h : v.strictEq w = true) : v.looseEq w = true :=
  (looseEq_of_sameConstructor (sameConstructor_of_strictEq h)).trans h

/-! ## Coherence -/

/-- Both equalities are symmetric, and strict equality is transitive. It does not see the order of
fields, and a value equals itself unless it holds what is not a number. Loose equality follows from
strict equality, and is the same for values built with the same constructor. -/
theorem equality_coherent (hv : v.WellFormed) (hw : w.WellFormed) :
    v.strictEq w = w.strictEq v ∧
      (v.strictEq w = true → w.strictEq u = true → v.strictEq u = true) ∧
      (∀ v', Reordered v v' → v.strictEq w = v'.strictEq w ∧ w.strictEq v = w.strictEq v') ∧
      (v.strictEq v = true ↔ ∀ x, Within (number x) v → x.isNaN = false) ∧
      v.looseEq w = w.looseEq v ∧
      (v.strictEq w = true → v.looseEq w = true) ∧
      (v.SameConstructor w → v.looseEq w = v.strictEq w) :=
  ⟨strictEq_comm hv hw, strictEq_trans, fun _ h => strictEq_of_reordered h hv hw,
    strictEq_self_iff hv, looseEq_comm hv hw, looseEq_of_strictEq, looseEq_of_sameConstructor⟩

/-- Two objects with their fields in different order, one of them an array with a number. -/
theorem equality_of_swapped_fields :
    let v := object [("ok", bool true), ("ids", array [number (Number.ofInt 7)])]
    let w := object [("ids", array [number (Number.ofInt 7)]), ("ok", bool true)]
    v.WellFormed ∧ w.WellFormed ∧ v.strictEq w = true ∧ w.strictEq v = true ∧
      v.looseEq w = true := by
  intro v w
  have hv : v.WellFormed := ⟨by decide, trivial, ⟨trivial, trivial⟩, trivial⟩
  have hw : w.WellFormed := ⟨by decide, ⟨trivial, trivial⟩, trivial, trivial⟩
  obtain ⟨hcomm, -, -, -, -, hloose, -⟩ := equality_coherent (u := v) hv hw
  have heq : v.strictEq w = true := by decide +kernel
  exact ⟨hv, hw, heq, hcomm.symm.trans heq, hloose heq⟩

end HttpDoctest.Value
