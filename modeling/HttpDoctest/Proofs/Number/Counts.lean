import HttpDoctest.Number.Reader
import HttpDoctest.Proofs.Number.Doubles

set_option autoImplicit false

/-! # Counting with doubles

The natural numbers below `2 ^ 53` are doubles. What such a double comes apart into is known
(`unpack_ofInt`), and so it is the position that it was made of (`index?_ofInt`), sums are exact
(`ofInt_add`) and the order is that of the numbers (`compare_ofInt`). A larger count may be rounded,
even to infinity, but is always above zero (`isPositive_unpack_ofInt`).
-/

namespace HttpDoctest.Number

open Float.Model Float.Model.UnpackedFloat

/-! ## Counts taken apart -/

/-- The places that a mantissa has behind the bits of a number. -/
def spare (n : Nat) : Nat := 52 - n.log2

section

variable {n : Nat}

theorem mul_spare_pos (hn : 0 < n) : 0 < n * 2 ^ spare n :=
  Nat.mul_pos hn (Nat.two_pow_pos _)

theorem log2_add_spare (hlt : n < 2 ^ 53) : n.log2 + spare n = 52 := by
  have hlog := log2_le_of_lt_two_pow (n := 52) hlt
  rw [spare]
  omega

variable (hn : 0 < n) (hlt : n < 2 ^ 53)
include hn hlt

theorem log2_mul_spare : (n * 2 ^ spare n).log2 = 52 := by
  rw [← Nat.shiftLeft_eq, log2_shiftLeft hn.ne', log2_add_spare hlt]

/-- A count is the mantissa that starts with its bits. -/
theorem ofInt_spare :
    UnpackedFloat.ofInt .binary64 (n : Int) =
      .finite .positive (n * 2 ^ spare n) (-(spare n : Int)) (mul_spare_pos hn) := by
  obtain ⟨hlo, hhi⟩ := (Nat.log2_eq_iff (mul_spare_pos hn).ne').1 (log2_mul_spare hn hlt)
  show UnpackedFloat.ofInt .binary64 (Sign.apply .positive (n : Int)) = _
  exact ofInt_scaled hlo hhi rfl

theorem unpack_ofInt :
    unpack (ofInt n) =
      .finite .positive (n * 2 ^ spare n) (-(spare n : Int)) (mul_spare_pos hn) := by
  show unpack (pack (UnpackedFloat.ofInt .binary64 (n : Int))) = _
  have hspare : spare n ≤ 52 := Nat.sub_le _ _
  rw [ofInt_spare hn hlt]
  exact unpack_pack (log2_mul_spare hn hlt) (by omega) (by omega)

end

theorem unpack_ofInt_zero : unpack (ofInt 0) = .zero .positive := rfl

/-- A count is the integer it was made of. -/
theorem toInt?_ofInt {n : Nat} (h : n < 2 ^ 53) : toInt? (ofInt n) = some (n : Int) := by
  rcases Nat.eq_zero_or_pos n with rfl | hn
  · decide +kernel
  · have hscaled : scaled? (n * 2 ^ spare n) (-(spare n : Int)) = some n := by
      rw [scaled?]
      by_cases hzero : spare n = 0
      · simp [hzero]
      · rw [if_neg (by omega), neg_neg, Int.toNat_natCast]
        have hmod : n * 2 ^ spare n % 2 ^ spare n = 0 := Nat.mul_mod_left _ _
        have hdiv : n * 2 ^ spare n / 2 ^ spare n = n := Nat.mul_div_cancel _ (Nat.two_pow_pos _)
        exact (if_pos hmod).trans (congrArg some hdiv)
    rw [toInt?, unpack_ofInt hn h]
    dsimp only
    rw [hscaled]
    rfl

/-- A count is the position it was made of. -/
theorem index?_ofInt {n : Nat} (h : n < 2 ^ 53) : index? (ofInt n) = some n := by
  have hlimit : n < indexLimit := h.trans (by decide)
  rw [index?, toInt?_ofInt h]
  exact if_pos hlimit

/-! ## Sums -/

/-- Zeros that are shifted out leave nothing to round. -/
theorem shiftRight_mul_two_pow (m n : Nat) :
    (⟨m * 2 ^ n, false, false⟩ : ExtendedMantissa) >>> n = ⟨m, false, false⟩ := by
  induction n generalizing m with
  | zero => rw [Nat.pow_zero, Nat.mul_one]; rfl
  | succ n ih =>
      show ((⟨m * 2 ^ (n + 1), false, false⟩ : ExtendedMantissa) >>> n).shiftRightOne = _
      have hdouble : m * 2 ^ (n + 1) = 2 * m * 2 ^ n := by ring
      rw [hdouble, ih, ExtendedMantissa.shiftRightOne]
      simp

/-- Zeros behind a number do not change what it is rounded to. -/
theorem round_mul_two_pow {sign : Sign} {n p : Nat} (hn : 0 < n) (hlt : n < 2 ^ 53)
    (hp : spare n ≤ p) :
    UnpackedFloat.round .binary64 sign (n * 2 ^ p) (-(p : Int)) =
      .finite sign (n * 2 ^ spare n) (-(spare n : Int)) (mul_spare_pos hn) := by
  have hbits := log2_add_spare hlt
  have hmantissa : n * 2 ^ p = n * 2 ^ spare n * 2 ^ (p - spare n) := by
    rw [Nat.mul_assoc, ← Nat.pow_add, Nat.add_sub_cancel' hp]
  have htarget {q : Nat} (hq : spare n ≤ q) :
      Format.binary64.targetExponent (totalExponent (n * 2 ^ q) (-(q : Int))) =
        -(spare n : Int) := by
    have hlog : (n * 2 ^ q).log2 = n.log2 + q := by
      rw [← Nat.shiftLeft_eq, log2_shiftLeft hn.ne']
    rw [targetExponent_eq, totalExponent, hlog]
    omega
  have hdecrease : decreaseExponent (n * 2 ^ p) (-(p : Int)) (-(spare n : Int)) =
      (n * 2 ^ p, -(p : Int)) := by
    have hzero : (-(p : Int) - -(spare n : Int)).toNat = 0 := by omega
    rw [decreaseExponent, hzero]
    exact congrArg (Prod.mk _) (Int.sub_zero _)
  have hshift : shiftToTargetExponent .binary64 (n * 2 ^ p) (-(p : Int)) .exact =
      (⟨n * 2 ^ spare n, false, false⟩, -(spare n : Int)) := by
    have hamount : (-(spare n : Int) - -(p : Int)).toNat = p - spare n := by omega
    rw [shiftToTargetExponent, shiftToExponent, htarget hp, hamount]
    dsimp only [ExtendedMantissa.ofMantissaAndAccuracy]
    rw [hmantissa, shiftRight_mul_two_pow]
    exact congrArg (Prod.mk _) (by omega)
  have hagain : shiftToTargetExponent .binary64 (n * 2 ^ spare n) (-(spare n : Int)) .exact =
      (⟨n * 2 ^ spare n, false, false⟩, -(spare n : Int)) := by
    have hzero : (-(spare n : Int) - -(spare n : Int)).toNat = 0 := by omega
    rw [shiftToTargetExponent, shiftToExponent, htarget (Nat.le_refl _), hzero]
    exact congrArg (Prod.mk _) (Int.add_zero _)
  have hrounded : ExtendedMantissa.roundedMantissa ⟨n * 2 ^ spare n, false, false⟩ =
      n * 2 ^ spare n := rfl
  rw [UnpackedFloat.round, htarget hp, hdecrease]
  dsimp only
  rw [roundWithAccuracy, hshift]
  dsimp only
  rw [hrounded, hagain]
  exact dif_neg (mul_spare_pos hn).ne'

/-- A sum of counts is a count, as long as it is not too large for a mantissa. -/
theorem ofInt_add {a b : Nat} (h : a + b < 2 ^ 53) : ofInt a + ofInt b = ofInt (a + b : Nat) := by
  show pack (UnpackedFloat.add .binary64 (unpack (ofInt a)) (unpack (ofInt b))) = _
  rcases Nat.eq_zero_or_pos a with rfl | ha
  · rw [Nat.zero_add]
    refine Eq.trans (congrArg pack ?_) (pack_unpack (ofInt b))
    show UnpackedFloat.add .binary64 (unpack (ofInt 0)) _ = _
    rw [unpack_ofInt_zero]
    rcases Nat.eq_zero_or_pos b with rfl | hb
    · show UnpackedFloat.add .binary64 _ (unpack (ofInt 0)) = unpack (ofInt 0)
      rw [unpack_ofInt_zero]
      rfl
    · rw [unpack_ofInt hb (by omega)]
      rfl
  rcases Nat.eq_zero_or_pos b with rfl | hb
  · rw [Nat.add_zero]
    refine Eq.trans (congrArg pack ?_) (pack_unpack (ofInt a))
    show UnpackedFloat.add .binary64 _ (unpack (ofInt 0)) = _
    rw [unpack_ofInt_zero, unpack_ofInt ha (by omega)]
    rfl
  -- both are shifted to the places of the smaller one, which are enough for the sum
  have hapos : a < 2 ^ 53 := by omega
  have hbpos : b < 2 ^ 53 := by omega
  have hsum : 0 < a + b := by omega
  let p := max (spare a) (spare b)
  have hspare : spare (a + b) ≤ p := by
    have hmono : a.log2 ≤ (a + b).log2 :=
      (Nat.le_log2 hsum.ne').2 ((Nat.log2_self_le ha.ne').trans (Nat.le_add_right a b))
    have hlog := log2_add_spare hapos
    have hlog' := log2_add_spare h
    omega
  have haligned {k : Nat} (hk : spare k ≤ p) :
      (k * 2 ^ spare k) <<< (-(spare k : Int) - -(p : Int)).toNat = k * 2 ^ p := by
    have hamount : (-(spare k : Int) - -(p : Int)).toNat = p - spare k := by omega
    rw [hamount, Nat.shiftLeft_eq, Nat.mul_assoc, ← Nat.pow_add, Nat.add_sub_cancel' hk]
  have hmin : min (-(spare a : Int)) (-(spare b : Int)) = -(p : Int) := by omega
  have hmantissa : Sign.apply .positive ((a * 2 ^ p : Nat) : Int) +
      Sign.apply .positive ((b * 2 ^ p : Nat) : Int) = (((a + b) * 2 ^ p : Nat) : Int) := by
    rw [Nat.add_mul]
    rfl
  have hpos : 0 < (a + b) * 2 ^ p := Nat.mul_pos hsum (Nat.two_pow_pos p)
  rw [unpack_ofInt ha hapos, unpack_ofInt hb hbpos]
  refine congrArg pack ?_
  rw [UnpackedFloat.add]
  dsimp only [decreaseExponent]
  rw [hmin, haligned (le_max_left _ _), haligned (le_max_right _ _), hmantissa,
    UnpackedFloat.normalize, Int.compare_eq_gt.2 (by omega)]
  dsimp only
  rw [Int.toNat_natCast, round_mul_two_pow hsum h hspare]
  exact (ofInt_spare hsum h).symm

/-! ## Order -/

/-- Counts compare as the numbers do. -/
theorem compare_ofInt {a b : Nat} (ha : a < 2 ^ 53) (hb : b < 2 ^ 53) :
    (unpack (ofInt a)).compare (unpack (ofInt b)) = some (compare a b) := by
  rcases Nat.eq_zero_or_pos a with rfl | hapos
  · show (unpack (ofInt 0)).compare _ = _
    rw [unpack_ofInt_zero]
    rcases Nat.eq_zero_or_pos b with rfl | hbpos
    · show UnpackedFloat.compare _ (unpack (ofInt 0)) = _
      rw [unpack_ofInt_zero]
      rfl
    · rw [unpack_ofInt hbpos hb, Nat.compare_eq_lt.2 hbpos]
      rfl
  rcases Nat.eq_zero_or_pos b with rfl | hbpos
  · show UnpackedFloat.compare _ (unpack (ofInt 0)) = _
    rw [unpack_ofInt_zero, unpack_ofInt hapos ha, Nat.compare_eq_gt.2 hapos]
    rfl
  have hlogs := log2_add_spare ha
  have hlogs' := log2_add_spare hb
  have hbits {k l : Nat} (hl : 0 < l) (h : k.log2 < l.log2) : k < l :=
    calc k < 2 ^ (k.log2 + 1) := Nat.lt_log2_self
      _ ≤ 2 ^ l.log2 := Nat.pow_le_pow_right (by decide) h
      _ ≤ l := Nat.log2_self_le hl.ne'
  rw [unpack_ofInt hapos ha, unpack_ofInt hbpos hb, UnpackedFloat.compare]
  refine congrArg some ?_
  obtain hlt | heq | hgt := Nat.lt_trichotomy a.log2 b.log2
  · rw [Int.compare_eq_lt.2 (by omega), Nat.compare_eq_lt.2 (hbits hbpos hlt)]
    rfl
  · have hsame : spare a = spare b := by omega
    rw [hsame, Int.compare_eq_eq.2 rfl]
    have hpos := Nat.two_pow_pos (spare b)
    obtain hab | hab | hab := Nat.lt_trichotomy a b
    · rw [Nat.compare_eq_lt.2 hab, Nat.compare_eq_lt.2 (Nat.mul_lt_mul_of_pos_right hab hpos)]
      rfl
    · rw [hab, Nat.compare_eq_eq.2 rfl, Nat.compare_eq_eq.2 rfl]
      rfl
    · rw [Nat.compare_eq_gt.2 hab, Nat.compare_eq_gt.2 (Nat.mul_lt_mul_of_pos_right hab hpos)]
      rfl
  · rw [Int.compare_eq_gt.2 (by omega), Nat.compare_eq_gt.2 (hbits hapos hgt)]
    rfl

/-! ## Counts of any size -/

/-- Whether a number taken apart is above zero. -/
def IsPositive : UnpackedFloat → Prop
  | .finite .positive .. => True
  | .infinity .positive => True
  | _ => False

theorem isPositive_unpack_ofInt {n : Nat} (hn : 0 < n) : IsPositive (unpack (ofInt n)) := by
  show IsPositive (unpack (pack (UnpackedFloat.ofInt .binary64 (n : Int))))
  have hshift : (n <<< (52 - n.log2)).log2 = n.log2 + (52 - n.log2) :=
    log2_shiftLeft hn.ne' _
  obtain ⟨m, e, hm, hround, hlog, hlo, -⟩ :=
    exists_roundWithAccuracy (m := n <<< (52 - n.log2)) (e := -((52 - n.log2 : Nat) : Int))
      .positive .exact (by omega) (by omega)
  rw [ofInt_eq, if_neg (by omega), if_neg (by omega), Int.natAbs_natCast, round_eq, hround]
  by_cases he : e ≤ 971
  · rw [unpack_pack hlog (by omega) he]
    trivial
  · -- what is too large becomes infinity
    have hbig : 2 ^ 11 ≤ (e + 1023 + (52 : Nat)).toNat + 1 := by omega
    have hpack : UnpackedFloat.pack .binary64 (.finite .positive m e hm) =
        packedInfinity .binary64 .positive := if_pos hbig
    show IsPositive (UnpackedFloat.unpack .binary64 (UnpackedFloat.pack .binary64 _))
    rw [hpack]
    trivial

/-- A count above zero equals nothing that is not. -/
theorem ofInt_beq_eq_false {n : Nat} {x : Float} (hn : 0 < n) (hx : ¬IsPositive (unpack x)) :
    (ofInt n == x) = false := by
  have hpositive := isPositive_unpack_ofInt hn
  refine Bool.eq_false_iff.2 fun hbeq => ?_
  replace hbeq : (unpack (ofInt n)).beq (unpack x) = true := hbeq
  rw [beq_iff_ne_notANumber_and_eq] at hbeq
  obtain ⟨-, -, heq | ⟨hzero, -⟩ | ⟨hzero, -⟩⟩ := hbeq
  · exact hx (heq ▸ hpositive)
  · rw [hzero] at hpositive
    exact hpositive
  · rw [hzero] at hpositive
    exact hpositive

end HttpDoctest.Number
