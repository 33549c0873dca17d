import HttpDoctest.Number.Layout
import Mathlib.Order.Basic
import Mathlib.Tactic.Ring

set_option autoImplicit false

/-! # The shortest decimals of integers and fractions

A decimal that reads back as a double lies in the interval of the double. The interval of a double
that is no integer holds no integer at all, and so the shortest decimal of such a double has places
behind its point (`exponent_shortest_neg`). The shortest decimal of a large integer is not much
smaller than the integer (`le_two_mul_shortest`).
-/

namespace HttpDoctest.Number

variable {tie : Tie} {m : Nat} {e : Int}

/-! ## Decimals with and without places -/

theorem Decimal.positional_of_nonneg {d : Decimal} (h : 0 ≤ d.exponent) :
    d.positional = digits d.significand ++ List.replicate d.exponent.toNat '0' :=
  if_pos h

theorem Decimal.point_mem_positional {d : Decimal} (h : d.exponent < 0) : '.' ∈ d.positional := by
  unfold positional
  dsimp only
  rw [if_neg (Int.not_le.2 h)]
  split <;> simp

/-! ## Searching the grids -/

namespace Interval

variable {i : Interval}

theorem holds_of_pointOn? {k : Int} {c : Nat} (h : i.pointOn? tie k = some c) :
    i.holds k c = true := by
  unfold pointOn? at h
  dsimp only at h
  split at h
  · next hbelow _ => exact Option.some.inj h ▸ hbelow
  · next _ habove => exact Option.some.inj h ▸ habove
  · cases h
  · next hbelow habove =>
    split at h
    · exact Option.some.inj h ▸ hbelow
    · exact Option.some.inj h ▸ habove
    · exact Option.some.inj h ▸ habove
    · split at h
      · exact Option.some.inj h ▸ hbelow
      · exact Option.some.inj h ▸ habove

/-- What is found on a grid lies in the interval. Where nothing is found, the last grid below all
that were searched has a point at the middle or below it. -/
theorem search_cases (i : Interval) (tie : Tie) (fuel : Nat) (k : Int) :
    (∃ c l, i.search tie fuel k = ⟨c, l⟩ ∧ i.holds l c = true) ∨
      i.search tie fuel k =
        ⟨i.middle * i.boundFactor (k - fuel) / i.pointFactor (k - fuel), k - fuel⟩ := by
  induction fuel generalizing k with
  | zero =>
      right
      have hk : k - (0 : Nat) = k := Int.sub_zero k
      rw [search, hk]
  | succ fuel ih =>
      rw [search]
      split
      · next c hc => exact .inl ⟨c, k, rfl, holds_of_pointOn? hc⟩
      · have hk : k - (fuel + 1 : Nat) = k - 1 - fuel := by omega
        rw [hk]
        exact ih (k - 1)

theorem bounds_of_holds {k : Int} {c : Nat} (h : i.holds k c = true) :
    i.low * i.boundFactor k ≤ c * i.pointFactor k ∧
      c * i.pointFactor k ≤ i.high * i.boundFactor k := by
  unfold holds at h
  dsimp only at h
  rw [Bool.and_eq_true] at h
  replace h := h.2
  split at h
  · simpa only [Bool.and_eq_true, decide_eq_true_eq] using h
  · simp only [Bool.and_eq_true, decide_eq_true_eq] at h
    exact h.imp Nat.le_of_lt Nat.le_of_lt

/-- The bounds of the interval of a double on a grid of integers. -/
theorem bounds_ofBinary {k : Int} {c : Nat} (hk : 0 ≤ k) (h : (ofBinary m e).holds k c = true) :
    (4 * m - 2) * 2 ^ (e - 2).toNat ≤ c * (2 ^ (2 - e).toNat * 10 ^ k.toNat) ∧
      c * (2 ^ (2 - e).toNat * 10 ^ k.toNat) ≤ (4 * m + 2) * 2 ^ (e - 2).toNat := by
  have hbound : (ofBinary m e).boundFactor k = 2 ^ (e - 2).toNat := by
    have hzero : (-k).toNat = 0 := by omega
    rw [boundFactor, hzero]
    exact Nat.mul_one _
  have hpoint : (ofBinary m e).pointFactor k = 2 ^ (2 - e).toNat * 10 ^ k.toNat := by
    have hneg : -(ofBinary m e).exponent = 2 - e := Int.neg_sub e 2
    rw [pointFactor, hneg]
    rfl
  have hlow : 4 * m - 2 ≤ (ofBinary m e).low := by
    show _ ≤ if m = Nat.pow 2 52 ∧ e > -1074 then 4 * m - 1 else 4 * m - 2
    split <;> omega
  obtain ⟨hlo, hhi⟩ := bounds_of_holds h
  rw [hbound, hpoint] at hlo hhi
  exact ⟨(Nat.mul_le_mul_right _ hlow).trans hlo, hhi⟩

end Interval

/-! ## Fractions -/

/-- The interval of a double that is no integer holds no integer: integers are multiples of the
step of the double, and there are none but the double itself less than a step away. -/
theorem not_holds_of_fraction {k : Int} {c : Nat} (hk : 0 ≤ k) (he : e < 0)
    (hnone : scaled? m e = none) : ¬(Interval.ofBinary m e).holds k c = true := by
  intro h
  obtain ⟨hlo, hhi⟩ := Interval.bounds_ofBinary hk h
  have hone : (e - 2).toNat = 0 := by omega
  have htwo : (2 - e).toNat = (-e).toNat + 2 := by omega
  have hstep : c * (2 ^ ((-e).toNat + 2) * 10 ^ k.toNat) =
      4 * (c * 10 ^ k.toNat * 2 ^ (-e).toNat) := by ring
  rw [hone, htwo, hstep, Nat.pow_zero, Nat.mul_one] at hlo hhi
  have hm : c * 10 ^ k.toNat * 2 ^ (-e).toNat = m := by omega
  have hmod : m % Nat.pow 2 (-e).toNat = 0 := by
    rw [← hm]
    exact Nat.mul_mod_left _ _
  rw [scaled?, if_neg (by omega), if_pos hmod] at hnone
  cases hnone

/-- The shortest decimal of a double that is no integer has places. -/
theorem exponent_shortest_neg (hm : m < 2 ^ 53) (he : e < 0) (hnone : scaled? m e = none) :
    (shortest tie m e).exponent < 0 := by
  rw [shortest]
  obtain ⟨c, k, hfound, hholds⟩ | hlast := Interval.search_cases (.ofBinary m e) tie 24
    ((m.log2 + 1 + e) * 30103 / 100000 + 2)
  · rw [hfound]
    by_contra hk
    exact not_holds_of_fraction (Int.not_lt.1 hk) he hnone hholds
  · -- twenty-four grids below the leading digit there are places already
    rw [hlast]
    have hlog : m.log2 ≤ 52 := by
      by_cases hzero : m = 0
      · simp [hzero]
      · exact Nat.le_of_lt_succ ((Nat.log2_lt hzero).2 hm)
    dsimp only
    omega

/-! ## Large integers -/

/-- Three digits take less than ten bits. -/
theorem ten_pow_le_two_pow {k l : Nat} (h : 10 * k + 4 ≤ 3 * l) : 10 ^ k ≤ 2 ^ l :=
  calc 10 ^ k = (10 ^ 3) ^ (k / 3) * 10 ^ (k % 3) := by
        rw [← Nat.pow_mul, ← Nat.pow_add, Nat.div_add_mod]
    _ ≤ (2 ^ 10) ^ (k / 3) * (2 ^ 4) ^ (k % 3) :=
        Nat.mul_le_mul (Nat.pow_le_pow_left (by decide) _) (Nat.pow_le_pow_left (by decide) _)
    _ = 2 ^ (10 * (k / 3) + 4 * (k % 3)) := by rw [← Nat.pow_mul, ← Nat.pow_mul, Nat.pow_add]
    _ ≤ 2 ^ l := Nat.pow_le_pow_right (by decide) (by omega)

/-- The shortest decimal of a large integer is at least half of it, if it has no places. -/
theorem le_two_mul_shortest (hm : 0 < m) (hlt : m < 2 ^ 53) (he : 2 ≤ e) (htop : e ≤ 971)
    (hplaces : 0 ≤ (shortest tie m e).exponent) :
    m * 2 ^ e.toNat ≤
      2 * ((shortest tie m e).significand * 10 ^ (shortest tie m e).exponent.toNat) := by
  have hquarter : m * 2 ^ e.toNat = 4 * m * 2 ^ (e - 2).toNat := by
    have hsplit : e.toNat = (e - 2).toNat + 2 := by omega
    rw [hsplit, Nat.pow_add]
    ring
  have hone : (2 - e).toNat = 0 := by omega
  rw [shortest] at hplaces ⊢
  obtain ⟨c, k, hfound, hholds⟩ | hlast := Interval.search_cases (.ofBinary m e) tie 24
    ((m.log2 + 1 + e) * 30103 / 100000 + 2)
  · rw [hfound] at hplaces ⊢
    obtain ⟨hlo, -⟩ := Interval.bounds_ofBinary hplaces hholds
    rw [hone, Nat.pow_zero, Nat.one_mul] at hlo
    calc m * 2 ^ e.toNat = 4 * m * 2 ^ (e - 2).toNat := hquarter
      _ ≤ 2 * (4 * m - 2) * 2 ^ (e - 2).toNat := Nat.mul_le_mul_right _ (by omega)
      _ = 2 * ((4 * m - 2) * 2 ^ (e - 2).toNat) := Nat.mul_assoc _ _ _
      _ ≤ 2 * (c * 10 ^ k.toNat) := Nat.mul_le_mul_left 2 hlo
  · -- the last grid is fine enough to have two points below the integer
    rw [hlast] at hplaces ⊢
    generalize hk : (m.log2 + 1 + e) * 30103 / 100000 + 2 - ((24 : Nat) : Int) = k at *
    dsimp only at hplaces ⊢
    have hbound : (Interval.ofBinary m e).middle * (Interval.ofBinary m e).boundFactor k =
        m * 2 ^ e.toNat := by
      have hzero : (-k).toNat = 0 := by omega
      rw [Interval.boundFactor, hzero, hquarter]
      exact congrArg (4 * m * ·) (Nat.mul_one _)
    have hpoint : (Interval.ofBinary m e).pointFactor k = 10 ^ k.toNat := by
      have hneg : (-(Interval.ofBinary m e).exponent).toNat = 0 := by
        show (-(e - 2)).toNat = 0
        omega
      rw [Interval.pointFactor, hneg]
      exact Nat.one_mul _
    rw [hbound, hpoint]
    have hlog : m.log2 ≤ 52 := Nat.le_of_lt_succ ((Nat.log2_lt hm.ne').2 hlt)
    have hsize : 2 * 10 ^ k.toNat ≤ m * 2 ^ e.toNat :=
      calc 2 * 10 ^ k.toNat ≤ 2 * 2 ^ (m.log2 + e.toNat - 1) :=
            Nat.mul_le_mul_left 2 (ten_pow_le_two_pow (by omega))
        _ = 2 ^ m.log2 * 2 ^ e.toNat := by
            rw [← Nat.pow_succ', ← Nat.pow_add]
            congr 1
            omega
        _ ≤ m * 2 ^ e.toNat := Nat.mul_le_mul_right _ (Nat.log2_self_le hm.ne')
    have hstep : 0 < 10 ^ k.toNat := Nat.pow_pos (by decide)
    have hdiv := Nat.lt_div_mul_add (a := m * 2 ^ e.toNat) hstep
    omega

end HttpDoctest.Number
