import HttpDoctest.Expression.Evaluation
import HttpDoctest.Proofs.Number.Counts
import HttpDoctest.Proofs.Text.Bytes

set_option autoImplicit false

/-! # Positions in texts

What a search of a text gives, what an index reads and what the length counts are positions of one
kind (`positions_agree`): a text is found where its characters are read, at the first such place,
and the place is told in characters although the search may go through bytes. Expressions compute
with positions as with numbers, and what they say of a place is so as long as the lengths are
numbers that are not rounded (`saysAt_iff`).
-/

namespace HttpDoctest.Value

variable {s t : String} {i j n : Nat}

/-! ## Characters read by index -/

/-- The character of a text at a position, or `undefined` behind the end. -/
def item (s : String) (n : Nat) : Value :=
  ((s.toList[n]?).map fun c => string (String.singleton c)).getD undefined

theorem isLength_of_index? {key : Value} (h : key.index? = some n) : key.isLength = false := by
  cases key with
  | string name =>
      refine beq_eq_false_iff_ne.2 ?_
      rintro rfl
      cases h
  | _ => rfl

/-- Whatever key stands for a position reads the character there. -/
theorem property_of_index? {key : Value} (h : key.index? = some n) (s : String) :
    (string s).property key = .ok (item s n) := by
  rw [property, isLength_of_index? h, if_neg Bool.false_ne_true, h]
  rfl

theorem property_length (s : String) :
    (string s).property (string "length") = .ok (count s.length) := by
  rw [← String.length_toList]
  rfl

/-- Characters read from two texts are strictly equal if they are the same. -/
theorem strictEq_item : (item s i).strictEq (item t j) = true ↔ s.toList[i]? = t.toList[j]? := by
  unfold item
  cases s.toList[i]? with
  | none =>
      cases t.toList[j]? with
      | none => exact iff_of_true rfl rfl
      | some d => exact iff_of_false Bool.false_ne_true (by simp)
  | some c =>
      cases t.toList[j]? with
      | none => exact iff_of_false Bool.false_ne_true (by simp)
      | some d =>
          show (String.singleton c == String.singleton d) = true ↔ some c = some d
          rw [beq_iff_eq, Option.some_inj, ← String.toList_inj]
          simp

/-- Whether a text stands in another at a position, as lengths and indices tell. -/
def StandsAt (s t : String) (i : Nat) : Prop :=
  i + t.length ≤ s.length ∧ ∀ j < t.length, (item s (i + j)).strictEq (item t j) = true

theorem standsAt_iff : StandsAt s t i ↔ Text.Stands t.toList s.toList i := by
  rw [StandsAt, Text.stands_iff_getElem?]
  simp only [strictEq_item, String.length_toList]

/-! ## Positions as numbers -/

theorem count_strictEq_minus_one (n : Nat) :
    (count n).strictEq (number (Number.ofInt (-1))) = false := by
  rcases Nat.eq_zero_or_pos n with rfl | hn
  · show (Number.ofInt 0 == Number.ofInt (-1)) = false
    decide +kernel
  · exact Number.ofInt_beq_eq_false hn id

theorem position_strictEq_minus_one (found : Option Nat) :
    (position found).strictEq (number (Number.ofInt (-1))) = found.isNone := by
  cases found with
  | none =>
      show (Number.ofInt (-1) == Number.ofInt (-1)) = true
      decide +kernel
  | some n => exact count_strictEq_minus_one n

theorem position_strictEq_zero (found : Option Nat) :
    (position found).strictEq (count 0) = (found == some 0) := by
  cases found with
  | none =>
      show (Number.ofInt (-1) == Number.ofInt 0) = false
      decide +kernel
  | some n =>
      rcases Nat.eq_zero_or_pos n with rfl | hn
      · show (Number.ofInt 0 == Number.ofInt 0) = true
        decide +kernel
      · rw [beq_eq_false_iff_ne.2 (by simp; omega)]
        exact Number.ofInt_beq_eq_false hn id

theorem index?_count (h : n < 2 ^ 53) : (count n).index? = some n :=
  Number.index?_ofInt h

theorem add_count (h : i + j < 2 ^ 53) :
    BinaryOp.add.apply (count i) (count j) = count (i + j) :=
  congrArg number (Number.ofInt_add h)

theorem lessEqual_count (hi : i < 2 ^ 53) (hj : j < 2 ^ 53) :
    BinaryOp.lessEqual.apply (count i) (count j) = bool (decide (i ≤ j)) := by
  have horder : (count i).order? (count j) = some (compare i j) := Number.compare_ofInt hi hj
  rw [BinaryOp.apply, horder]
  refine congrArg bool ?_
  obtain hlt | rfl | hgt := Nat.lt_trichotomy i j
  · rw [Nat.compare_eq_lt.2 hlt, decide_eq_true hlt.le]
    rfl
  · rw [Nat.compare_eq_eq.2 rfl, decide_eq_true i.le_refl]
    rfl
  · rw [Nat.compare_eq_gt.2 hgt, decide_eq_false (Nat.not_le.2 hgt)]
    rfl

/-- What an expression can say of a place: `i + t.length <= s.length`, and `s[i + j] === t[j]` for
every `j` below the length of `t`. -/
structure SaysAt (s t : String) (i : Value) : Prop where
  fits : ∃ part whole, (string t).property (string "length") = .ok part ∧
    (string s).property (string "length") = .ok whole ∧
    BinaryOp.lessEqual.apply (BinaryOp.add.apply i part) whole = bool true
  same : ∀ j < t.length, ∃ a b, (string s).property (BinaryOp.add.apply i (count j)) = .ok a ∧
    (string t).property (count j) = .ok b ∧ BinaryOp.strictEqual.apply a b = bool true

/-- As long as no position is rounded, an expression says where a text stands. -/
theorem saysAt_iff (h : s.length + t.length < 2 ^ 53) (hi : i ≤ s.length) :
    SaysAt s t (count i) ↔ StandsAt s t i := by
  have hfits : BinaryOp.lessEqual.apply (BinaryOp.add.apply (count i) (count t.length))
      (count s.length) = bool (decide (i + t.length ≤ s.length)) := by
    rw [add_count (by omega), lessEqual_count (by omega) (by omega)]
  have hwhole {j : Nat} (hj : j < t.length) :
      (string s).property (BinaryOp.add.apply (count i) (count j)) = .ok (item s (i + j)) := by
    rw [add_count (by omega)]
    exact property_of_index? (index?_count (by omega)) s
  have hpart {j : Nat} (hj : j < t.length) : (string t).property (count j) = .ok (item t j) :=
    property_of_index? (index?_count (by omega)) t
  constructor
  · rintro ⟨⟨part, whole, ht, hs, hle⟩, hsame⟩
    rw [property_length] at ht hs
    cases ht
    cases hs
    rw [hfits, bool.injEq, decide_eq_true_iff] at hle
    refine ⟨hle, fun j hj => ?_⟩
    obtain ⟨a, b, ha, hb, heq⟩ := hsame j hj
    rw [hwhole hj] at ha
    rw [hpart hj] at hb
    cases ha
    cases hb
    exact bool.inj heq
  · rintro ⟨hle, hsame⟩
    refine ⟨⟨_, _, property_length t, property_length s, ?_⟩, fun j hj => ?_⟩
    · rw [hfits, decide_eq_true hle]
    · exact ⟨_, _, hwhole hj, hpart hj, congrArg bool (hsame j hj)⟩

/-! ## Searches -/

/-- What a search of `s` for `t` gives, together with the other methods that look for a text and
with what is read by index. The search through the bytes of the texts finds the same place, counted
in bytes. -/
structure Found (s t : String) (found : Option Nat) : Prop where
  indexOf : (string s).invoke "indexOf" [string t] = .ok (position found)
  minus_one : BinaryOp.strictEqual.apply (position found) (number (Number.ofInt (-1))) =
    bool found.isNone
  first : ∀ i, found = some i → IsLeast {k | StandsAt s t k} i
  nowhere : found = none → ∀ k, ¬StandsAt s t k
  includes : (string s).invoke "includes" [string t] =
    .ok (BinaryOp.strictNotEqual.apply (position found) (number (Number.ofInt (-1))))
  startsWith : (string s).invoke "startsWith" [string t] =
    .ok (BinaryOp.strictEqual.apply (position found) (count 0))
  endsWith : ∃ ends, (string s).invoke "endsWith" [string t] = .ok (bool ends) ∧
    (ends = true ↔ t.length ≤ s.length ∧ StandsAt s t (s.length - t.length))
  bytes : ∀ i, found = some i →
    IsLeast {n | Text.Stands (Text.encode t.toList) (Text.encode s.toList) n}
      (Text.byteLength (s.toList.take i))
  no_bytes : found = none →
    ∀ n, ¬Text.Stands (Text.encode t.toList) (Text.encode s.toList) n

theorem isSuffix_iff_standsAt :
    t.toList <:+ s.toList ↔ t.length ≤ s.length ∧ StandsAt s t (s.length - t.length) := by
  rw [Text.isSuffix_iff_stands, standsAt_iff]
  simp only [String.length_toList]
  constructor
  · rintro ⟨i, hlength, hstands⟩
    have hi : i = s.length - t.length := by omega
    exact ⟨by omega, hi ▸ hstands⟩
  · rintro ⟨hlength, hstands⟩
    exact ⟨_, Nat.sub_add_cancel hlength, hstands⟩

theorem found_indexOf? (s t : String) : Found s t (Text.indexOf? t.toList s.toList) where
  indexOf := rfl
  minus_one := congrArg bool (position_strictEq_minus_one _)
  first i hi := by
    simp only [standsAt_iff]
    exact Text.indexOf?_eq_some_iff.1 hi
  nowhere hnone k := by
    rw [standsAt_iff]
    exact Text.indexOf?_eq_none_iff.1 hnone k
  includes := by
    rw [BinaryOp.apply, position_strictEq_minus_one, Option.not_isNone]
    rfl
  startsWith := by
    rw [BinaryOp.apply, position_strictEq_zero]
    refine congrArg (Except.ok ∘ bool) ?_
    show t.toList.isPrefixOf s.toList = _
    rw [Bool.eq_iff_iff, List.isPrefixOf_iff_prefix, beq_iff_eq, Text.indexOf?_eq_some_zero_iff]
  endsWith :=
    ⟨t.toList.isSuffixOf s.toList, rfl, List.isSuffixOf_iff_suffix.trans isSuffix_iff_standsAt⟩
  bytes i hi := Text.isLeast_stands_encode (Text.indexOf?_eq_some_iff.1 hi)
  no_bytes hnone := Text.not_stands_encode (Text.indexOf?_eq_none_iff.1 hnone)

/-- **Positions in texts agree.** A search of `s` for `t` gives the first place where the length of
`t` fits and indices read the characters of `t`, or minus one if there is none. The other methods
look at the same places. As long as no position is rounded, expressions that compute with lengths
and indices say the same of every place. -/
theorem positions_agree (s t : String) :
    (∃ found, Found s t found) ∧
      (s.length + t.length < 2 ^ 53 →
        ∀ i ≤ s.length, SaysAt s t (count i) ↔ StandsAt s t i) :=
  ⟨⟨_, found_indexOf? s t⟩, fun h _ hi => saysAt_iff h hi⟩

/-- Behind characters of two and of three bytes the third one is at position two. -/
theorem positions_agree_among_wide_characters :
    "é€😀".length + "😀".length < 2 ^ 53 ∧ 2 ≤ "é€😀".length ∧
      (string "é€😀").invoke "indexOf" [string "😀"] = .ok (count 2) ∧
      SaysAt "é€😀" "😀" (count 2) := by
  obtain ⟨⟨found, hfound⟩, hsaid⟩ := positions_agree "é€😀" "😀"
  have hlength : "é€😀".length + "😀".length < 2 ^ 53 := by decide
  have hstands : StandsAt "é€😀" "😀" 2 := standsAt_iff.2 ⟨['é', '€'], [], rfl, rfl⟩
  refine ⟨hlength, by decide, ?_, (hsaid hlength 2 (by decide)).2 hstands⟩
  rw [hfound.indexOf]
  cases hcases : found with
  | none => exact absurd hstands (hfound.nowhere hcases 2)
  | some i =>
      obtain ⟨hi, hleast⟩ := hfound.first i hcases
      have hle : i ≤ 2 := hleast hstands
      have hread := hi.2 0 (by decide)
      interval_cases i
      · exact absurd hread (by decide)
      · exact absurd hread (by decide)
      · rfl

end HttpDoctest.Value
