import HttpDoctest.Number.Binary
import Mathlib

set_option autoImplicit false

/-! # Doubles taken apart

What a double comes apart into (`Canonical`), and which numbers taken apart can be put together
without becoming infinite (`Fits`). Rounding keeps the leading bit of a number, or gives it one more
place, and so the operations that read decimals do not leave the doubles: an integer of sixty-four
bits, a product that is not infinite and a quotient by a power of ten are numbers. An integer of no
more than fifty-three bits is the very double that it is read from (`ofInt_of_toInt?`).

That packing takes back what unpacking gives is in `Batteries.Data.Float.Lemmas`, which no module of
Mathlib brings but the whole.
-/

namespace HttpDoctest.Number

open Float.Model Float.Model.UnpackedFloat

/-! ## Taking apart and putting together -/

theorem pack_unpack (x : Float) : pack (unpack x) = x := by
  have hbits : (Float.Model.pack x.toModel.unpack).toBits = x.toModel.toBits :=
    UInt64.toBitVec_inj.1 (pack_unpack_of_valid x.toModel.valid)
  obtain ⟨bits, hvalid⟩ := x
  exact congrArg Float.ofModel (Float.Model.mk.injEq .. ▸ hbits)

/-- What a double comes apart into: its mantissa has fifty-three bits, or less where its exponent
is the least. -/
inductive Canonical : UnpackedFloat → Prop
  | notANumber : Canonical .notANumber
  | infinity {sign : Sign} : Canonical (.infinity sign)
  | zero {sign : Sign} : Canonical (.zero sign)
  | subnormal {sign : Sign} {m : Nat} {h : 0 < m} :
      m < 2 ^ 52 → Canonical (.finite sign m (-1074) h)
  | normal {sign : Sign} {m : Nat} {e : Int} {h : 0 < m} :
      2 ^ 52 ≤ m → m < 2 ^ 53 → -1074 ≤ e → e ≤ 971 → Canonical (.finite sign m e h)

theorem Canonical.bounds {sign : Sign} {m : Nat} {e : Int} {h : 0 < m}
    (hcanonical : Canonical (.finite sign m e h)) : m < 2 ^ 53 ∧ e ≤ 971 := by
  cases hcanonical with
  | subnormal hlt => exact ⟨by omega, by decide⟩
  | normal _ hlt _ he => exact ⟨hlt, he⟩

theorem bias_eq : ((Format.binary64.exponentBias : Nat) : Int) = 1023 := rfl

theorem toNat_one_append (mantissa : BitVec 52) :
    (1#1 ++ mantissa).toNat = 2 ^ 52 + mantissa.toNat := by
  rw [BitVec.toNat_append, ← Nat.shiftLeft_add_eq_or_of_lt mantissa.isLt]
  rfl

section Bits

variable (b : BitVec Format.binary64.numBits)

theorem canonical_unpack_bits : Canonical (UnpackedFloat.unpack .binary64 b) := by
  have hmantissa : (unpackMantissa b).toNat < 2 ^ 52 := (unpackMantissa b).isLt
  have hexponent : (unpackExponent b).toNat < 2 ^ 11 := (unpackExponent b).isLt
  fun_cases UnpackedFloat.unpack with
  | case1 => exact .infinity
  | case2 => exact .notANumber
  | case3 => exact .zero
  | case4 mantissa exponent e signBits sign _ hzero hne =>
      have he : e + 1 = -1074 := by
        show ((unpackExponent b).toNat : Int) - (_ + (52 : Nat)) + 1 = -1074
        have hexp : unpackExponent b = 0 := hzero
        rw [bias_eq, hexp]
        rfl
      rw [he]
      exact .subnormal hmantissa
  | case5 mantissa exponent e signBits sign hones hzero =>
      have hm : (1#1 ++ mantissa).toNat = 2 ^ 52 + mantissa.toNat := toNat_one_append _
      have he : e = ((unpackExponent b).toNat : Int) - 1075 := by
        show ((unpackExponent b).toNat : Int) - (_ + (52 : Nat)) = _
        rw [bias_eq]
        omega
      have hpos : (unpackExponent b).toNat ≠ 0 := fun h => hzero (BitVec.toNat_inj.1 h)
      have htop : (unpackExponent b).toNat ≠ 2047 := fun h => hones (BitVec.toNat_inj.1 h)
      have hsmall : mantissa.toNat < 2 ^ 52 := hmantissa
      rw [he]
      exact .normal (by omega) (by omega) (by omega) (by omega)

theorem isFinite_unpack_iff :
    (UnpackedFloat.unpack .binary64 b).isFinite = true ↔ unpackExponent b ≠ -1#11 := by
  fun_cases UnpackedFloat.unpack with
  | case1 mantissa exponent _ _ hones => exact iff_of_false nofun (not_not.2 hones)
  | case2 mantissa exponent hones => exact iff_of_false nofun (not_not.2 hones)
  | case3 mantissa exponent _ _ hones => exact iff_of_true rfl hones
  | case4 mantissa exponent _ _ _ hones => exact iff_of_true rfl hones
  | case5 mantissa exponent _ _ _ hones => exact iff_of_true rfl hones

end Bits

theorem canonical_unpack (x : Float) : Canonical (unpack x) :=
  canonical_unpack_bits _

/-- Whether a number taken apart is no larger than the doubles are. -/
def Fits : UnpackedFloat → Prop
  | .zero _ => True
  | .finite _ _ e _ => e ≤ 971
  | .infinity _ => False
  | .notANumber => False

theorem fits_unpack_iff {x : Float} : Fits (unpack x) ↔ x.isFinite = true := by
  show _ ↔ (unpack x).isFinite = true
  have hcanonical := canonical_unpack x
  generalize unpack x = u at *
  cases hcanonical with
  | notANumber => simp [UnpackedFloat.isFinite, Fits]
  | infinity => simp [UnpackedFloat.isFinite, Fits]
  | zero => simp [UnpackedFloat.isFinite, Fits]
  | subnormal => simp [UnpackedFloat.isFinite, Fits]
  | normal _ _ _ he => simp [UnpackedFloat.isFinite, Fits, he]

theorem isFinite_pack {u : UnpackedFloat} (h : Fits u) : (pack u).isFinite = true := by
  refine (isFinite_unpack_iff _).2 ?_
  show unpackExponent (UnpackedFloat.pack .binary64 u) ≠ -1#11
  fun_cases UnpackedFloat.pack with
  | case1 => exact absurd h id
  | case2 => exact absurd h id
  | case3 =>
      rw [packedZero, unpackExponent_packComponents]
      decide
  | case4 sign m e _ biased hbig =>
      have he : e ≤ 971 := h
      have hbiased : biased = (e + 1023 + (52 : Nat)).toNat := rfl
      have hbig : 2 ^ 11 ≤ biased + 1 := hbig
      omega
  | case5 sign m e _ bits biased hbig =>
      have hbig : ¬2 ^ 11 ≤ biased + 1 := hbig
      rw [unpackExponent_packComponents]
      intro hones
      have hbiased : biased % 2 ^ 11 = 2047 := congrArg BitVec.toNat hones
      omega
  | case6 =>
      rw [unpackExponent_packComponents]
      decide

/-- A number that is too large is put together as infinity. -/
theorem isFinite_pack_of_not_isInf {u : UnpackedFloat} (hu : u.isFinite = true)
    (h : (pack u).isInf = false) : (pack u).isFinite = true := by
  cases u with
  | infinity => cases hu
  | notANumber => cases hu
  | zero => exact isFinite_pack trivial
  | finite sign m e hm =>
      by_cases he : e ≤ 971
      · exact isFinite_pack he
      · have hbig : 2 ^ 11 ≤ (e + 1023 + (52 : Nat)).toNat + 1 := by omega
        have hpack : UnpackedFloat.pack .binary64 (.finite sign m e hm) =
            packedInfinity .binary64 sign := if_pos hbig
        have hinf : (pack (.finite sign m e hm)).isInf =
            (UnpackedFloat.unpack .binary64 (packedInfinity .binary64 sign)).isInf :=
          congrArg (fun b => (UnpackedFloat.unpack .binary64 b).isInf) hpack
        rw [hinf] at h
        cases sign <;> cases h

/-- A number with all bits of a mantissa comes apart as it was put together. -/
theorem unpack_pack {sign : Sign} {m : Nat} {e : Int} {hm : 0 < m} (hlog : m.log2 = 52)
    (hlo : -1074 ≤ e) (hhi : e ≤ 971) :
    unpack (pack (.finite sign m e hm)) = .finite sign m e hm := by
  obtain ⟨hle, hlt⟩ := (Nat.log2_eq_iff hm.ne').1 hlog
  let biased := (e + 1023 + (52 : Nat)).toNat
  have hbiased : biased = (e + 1023 + (52 : Nat)).toNat := rfl
  have hpack : UnpackedFloat.pack .binary64 (.finite sign m e hm) =
      packComponents .binary64 sign (BitVec.ofNat 11 biased) (BitVec.ofNat 52 m) := by
    refine (if_neg ?_).trans (if_pos ?_)
    · show ¬2 ^ 11 ≤ biased + 1
      omega
    · rw [hlog]
      rfl
  have hexponent : (BitVec.ofNat 11 biased).toNat = biased := Nat.mod_eq_of_lt (by omega)
  have hones : BitVec.ofNat 11 biased ≠ -1#11 := by
    intro h
    have : biased = 2047 := hexponent.symm.trans (congrArg BitVec.toNat h)
    omega
  have hzero : BitVec.ofNat 11 biased ≠ 0#11 := by
    intro h
    have : biased = 0 := hexponent.symm.trans (congrArg BitVec.toNat h)
    omega
  have hmantissa : (1#1 ++ BitVec.ofNat 52 m).toNat = m := by
    rw [toNat_one_append, BitVec.toNat_ofNat]
    omega
  show UnpackedFloat.unpack .binary64 (UnpackedFloat.pack .binary64 (.finite sign m e hm)) = _
  rw [hpack, UnpackedFloat.unpack]
  simp only [unpackMantissa_packComponents, unpackExponent_packComponents,
    unpackSign_packComponents, Sign.ofBitVec_toBitVec]
  rw [if_neg hones, if_neg hzero]
  congr 1
  rw [hexponent, bias_eq, hbiased]
  omega

/-! ## Leading bits -/

theorem log2_le_of_lt_two_pow {m n : Nat} (h : m < 2 ^ (n + 1)) : m.log2 ≤ n := by
  by_cases hm : m = 0
  · subst hm
    exact Nat.zero_le n
  · exact Nat.le_of_lt_succ ((Nat.log2_lt hm).2 h)

theorem log2_shiftLeft {m : Nat} (hm : m ≠ 0) (k : Nat) : (m <<< k).log2 = m.log2 + k := by
  have hpow : m <<< k = m * 2 ^ k := Nat.shiftLeft_eq m k
  rw [Nat.log2_eq_iff (by rw [hpow]; positivity), hpow, Nat.pow_add, Nat.add_right_comm,
    Nat.pow_add]
  exact ⟨Nat.mul_le_mul_right _ (Nat.log2_self_le hm),
    Nat.mul_lt_mul_of_pos_right Nat.lt_log2_self (Nat.two_pow_pos k)⟩

theorem div_two_pow_lt (m k : Nat) : m / 2 ^ k < 2 ^ (m.log2 + 1 - k) := by
  rw [Nat.div_lt_iff_lt_mul (Nat.two_pow_pos k), ← Nat.pow_add]
  calc m < 2 ^ (m.log2 + 1) := Nat.lt_log2_self
    _ ≤ 2 ^ (m.log2 + 1 - k + k) := Nat.pow_le_pow_right (by decide) (by omega)

theorem log2_div_le (m k : Nat) {n : Nat} (hn : 0 < n) :
    ((m <<< k) / n).log2 ≤ m.log2 + k - n.log2 := by
  apply log2_le_of_lt_two_pow
  calc (m <<< k) / n ≤ (m <<< k) / 2 ^ n.log2 :=
        Nat.div_le_div_left (Nat.log2_self_le hn.ne') (Nat.two_pow_pos _)
    _ < 2 ^ ((m <<< k).log2 + 1 - n.log2) := div_two_pow_lt _ _
    _ ≤ 2 ^ (m.log2 + k - n.log2 + 1) := by
        refine Nat.pow_le_pow_right (by decide) ?_
        have hlog : (m <<< k).log2 ≤ m.log2 + k := by
          by_cases hm : m = 0
          · rw [hm, Nat.zero_shiftLeft]
            exact Nat.zero_le _
          · exact (log2_shiftLeft hm k).le
        omega

/-! ## Rounding -/

theorem targetExponent_eq (total : Int) :
    Format.binary64.targetExponent total = max (total - 53) (-1074) := rfl

theorem mantissa_shiftRight (found : ExtendedMantissa) (n : Nat) :
    (found >>> n).mantissa = found.mantissa / 2 ^ n := by
  induction n with
  | zero => exact (Nat.div_one _).symm
  | succ n ih =>
      show (found >>> n).mantissa / 2 = _
      rw [ih, Nat.div_div_eq_div_mul, Nat.pow_succ]

theorem mantissa_ofMantissaAndAccuracy (m : Nat) (accuracy : Accuracy) :
    (ExtendedMantissa.ofMantissaAndAccuracy m accuracy).mantissa = m := by
  unfold ExtendedMantissa.ofMantissaAndAccuracy
  split <;> rfl

theorem roundedMantissa_le (found : ExtendedMantissa) :
    found.roundedMantissa ≤ found.mantissa + 1 := by
  unfold ExtendedMantissa.roundedMantissa Accuracy.roundToNearestEven
  split <;> omega

theorem le_roundedMantissa (found : ExtendedMantissa) :
    found.mantissa ≤ found.roundedMantissa := by
  unfold ExtendedMantissa.roundedMantissa Accuracy.roundToNearestEven
  split <;> omega

section Round

variable {sign : Sign} {m : Nat} {e : Int} {accuracy : Accuracy}

theorem snd_shiftToTargetExponent (m : Nat) (e : Int) (accuracy : Accuracy) :
    (shiftToTargetExponent .binary64 m e accuracy).2 =
      max e (max (totalExponent m e - 53) (-1074)) := by
  show e + ((Format.binary64.targetExponent (totalExponent m e) - e).toNat : Int) = _
  rw [targetExponent_eq]
  omega

theorem mantissa_shiftToTargetExponent (m : Nat) (e : Int) (accuracy : Accuracy) :
    (shiftToTargetExponent .binary64 m e accuracy).1.mantissa =
      m / 2 ^ ((shiftToTargetExponent .binary64 m e accuracy).2 - e).toNat := by
  have hshift : ((shiftToTargetExponent .binary64 m e accuracy).2 - e).toNat =
      (Format.binary64.targetExponent (totalExponent m e) - e).toNat := by
    rw [snd_shiftToTargetExponent, targetExponent_eq]
    omega
  rw [hshift]
  exact (mantissa_shiftRight _ _).trans
    (congrArg (· / _) (mantissa_ofMantissaAndAccuracy m accuracy))

/-- What is rounded to fifty-three bits has an exponent that is not much larger than it was or than
its leading bit asks for. -/
theorem exponent_roundWithAccuracy {sign' : Sign} {m' : Nat} {e' : Int} {h : 0 < m'}
    (hround : roundWithAccuracy .binary64 sign m e accuracy = .finite sign' m' e' h) :
    e' ≤ max e (max (totalExponent m e - 52) (-1074)) := by
  have hmantissa := mantissa_shiftToTargetExponent m e accuracy
  have hexponent := snd_shiftToTargetExponent m e accuracy
  rw [roundWithAccuracy] at hround
  generalize shiftToTargetExponent .binary64 m e accuracy = shifted at *
  obtain ⟨found, between⟩ := shifted
  dsimp only at hround hmantissa hexponent
  have hlast := snd_shiftToTargetExponent found.roundedMantissa between .exact
  generalize shiftToTargetExponent .binary64 found.roundedMantissa between .exact = last at *
  obtain ⟨final, behind⟩ := last
  dsimp only at hround hlast
  split at hround
  · cases hround
  · cases hround
    have hrounded : found.roundedMantissa < 2 ^ ((m.log2 + 1 + e - between).toNat + 1) := by
      have hle := roundedMantissa_le found
      have hlt := div_two_pow_lt m (between - e).toNat
      have hbits : m.log2 + 1 - (between - e).toNat = (m.log2 + 1 + e - between).toNat := by omega
      rw [hbits, ← hmantissa] at hlt
      rw [Nat.pow_succ]
      omega
    have hlog := log2_le_of_lt_two_pow hrounded
    simp only [totalExponent] at *
    omega

theorem isFinite_roundWithAccuracy (sign : Sign) (m : Nat) (e : Int) (accuracy : Accuracy) :
    (roundWithAccuracy .binary64 sign m e accuracy).isFinite = true := by
  rw [roundWithAccuracy]
  dsimp only
  split <;> rfl

/-- What is rounded to fifty-three bits is a double unless it is very large. -/
theorem fits_roundWithAccuracy (he : e ≤ 971) (hm : totalExponent m e ≤ 1023) :
    Fits (roundWithAccuracy .binary64 sign m e accuracy) := by
  have hfinite := isFinite_roundWithAccuracy sign m e accuracy
  cases hround : roundWithAccuracy .binary64 sign m e accuracy with
  | zero => trivial
  | finite sign' m' e' h =>
      have hle := exponent_roundWithAccuracy hround
      show e' ≤ 971
      omega
  | infinity =>
      rw [hround] at hfinite
      cases hfinite
  | notANumber =>
      rw [hround] at hfinite
      cases hfinite

/-- What has at least the bits of a mantissa has exactly these when it is rounded, and its leading
bit stays where it was or moves up by one place. -/
theorem exists_roundWithAccuracy (sign : Sign) (accuracy : Accuracy) (hlog : 52 ≤ m.log2)
    (he : -1022 ≤ m.log2 + e) :
    ∃ (m' : Nat) (e' : Int) (hm' : 0 < m'),
      roundWithAccuracy .binary64 sign m e accuracy = .finite sign m' e' hm' ∧ m'.log2 = 52 ∧
        m.log2 + e - 52 ≤ e' ∧ e' ≤ m.log2 + e - 51 := by
  have hm : m ≠ 0 := by
    rintro rfl
    exact absurd hlog (by decide)
  have hmantissa := mantissa_shiftToTargetExponent m e accuracy
  have hbetween := snd_shiftToTargetExponent m e accuracy
  rw [roundWithAccuracy]
  generalize shiftToTargetExponent .binary64 m e accuracy = shifted at *
  obtain ⟨found, between⟩ := shifted
  dsimp only at hmantissa hbetween ⊢
  have hfinal := mantissa_shiftToTargetExponent found.roundedMantissa between .exact
  have hbehind := snd_shiftToTargetExponent found.roundedMantissa between .exact
  generalize shiftToTargetExponent .binary64 found.roundedMantissa between .exact = last at *
  obtain ⟨final, behind⟩ := last
  dsimp only at hfinal hbehind ⊢
  rw [totalExponent] at hbetween hbehind
  have hshift : (between - e).toNat = m.log2 - 52 := by omega
  rw [hshift] at hmantissa
  -- the mantissa has all its bits now, and rounding up may give it one more
  have hlo : 2 ^ 52 ≤ found.mantissa := by
    rw [hmantissa, Nat.le_div_iff_mul_le (Nat.two_pow_pos _), ← Nat.pow_add,
      Nat.add_sub_cancel' hlog]
    exact Nat.log2_self_le hm
  have hhi : found.mantissa < 2 ^ 53 := by
    have hlt := div_two_pow_lt m (m.log2 - 52)
    rwa [← hmantissa, show m.log2 + 1 - (m.log2 - 52) = 53 by omega] at hlt
  have hle := le_roundedMantissa found
  have hge := roundedMantissa_le found
  by_cases hcarry : found.roundedMantissa = 2 ^ 53
  · have hbits : found.roundedMantissa.log2 = 53 := by rw [hcarry, Nat.log2_two_pow]
    have hone : (behind - between).toNat = 1 := by omega
    have hvalue : final.mantissa = 2 ^ 52 := by
      rw [hfinal, hone, hcarry]
      rfl
    have hne : final.mantissa ≠ 0 := by
      rw [hvalue]
      decide
    exact ⟨_, _, Nat.pos_of_ne_zero hne, dif_neg hne, by rw [hvalue, Nat.log2_two_pow], by omega,
      by omega⟩
  · have hbits : found.roundedMantissa.log2 = 52 :=
      (Nat.log2_eq_iff (by omega)).2 ⟨by omega, by omega⟩
    have hzero : (behind - between).toNat = 0 := by omega
    have hvalue : final.mantissa = found.roundedMantissa := by
      rw [hfinal, hzero]
      exact Nat.div_one _
    have hne : final.mantissa ≠ 0 := by omega
    exact ⟨_, _, Nat.pos_of_ne_zero hne, dif_neg hne, by rw [hvalue, hbits], by omega, by omega⟩

/-- What has no more bits than a mantissa is not changed by rounding. -/
theorem roundWithAccuracy_exact (hm : 0 < m)
    (h : Format.binary64.targetExponent (totalExponent m e) ≤ e) :
    roundWithAccuracy .binary64 sign m e .exact = .finite sign m e hm := by
  have hshift : shiftToTargetExponent .binary64 m e .exact = (⟨m, false, false⟩, e) := by
    have hzero : (Format.binary64.targetExponent (totalExponent m e) - e).toNat = 0 := by omega
    rw [shiftToTargetExponent, shiftToExponent, hzero]
    exact congrArg (Prod.mk _) (Int.add_zero e)
  have hrounded : ExtendedMantissa.roundedMantissa ⟨m, false, false⟩ = m := rfl
  rw [roundWithAccuracy, hshift]
  dsimp only
  rw [hrounded, hshift]
  exact dif_neg hm.ne'

end Round

/-! ## Operations -/

theorem isNaN_of_isFinite {x : Float} (h : x.isFinite = true) : x.isNaN = false := by
  replace h : (unpack x).isFinite = true := h
  show (unpack x).isNaN = false
  cases hx : unpack x with
  | notANumber =>
      rw [hx] at h
      cases h
  | infinity | zero | finite => rfl

theorem isFinite_neg {x : Float} (h : x.isFinite = true) : (-x).isFinite = true := by
  have hfits := fits_unpack_iff.2 h
  refine isFinite_pack (u := (unpack x).neg) ?_
  generalize unpack x = u at *
  cases u with
  | zero => trivial
  | finite => exact hfits
  | infinity => exact hfits
  | notANumber => exact hfits

/-- A product of two numbers is a number if it is not too large. -/
theorem isFinite_mul {x y : Float} (hx : x.isFinite = true) (hy : y.isFinite = true)
    (h : (x * y).isInf = false) : (x * y).isFinite = true := by
  refine isFinite_pack_of_not_isInf (u := mul .binary64 (unpack x) (unpack y)) ?_ h
  replace hx : (unpack x).isFinite = true := hx
  replace hy : (unpack y).isFinite = true := hy
  generalize unpack x = u at *
  generalize unpack y = v at *
  cases u with
  | infinity => cases hx
  | notANumber => cases hx
  | zero =>
      cases v with
      | infinity => cases hy
      | notANumber => cases hy
      | zero => rfl
      | finite => rfl
  | finite =>
      cases v with
      | infinity => cases hy
      | notANumber => cases hy
      | zero => rfl
      | finite => exact isFinite_roundWithAccuracy _ _ _ _

/-- A number divided by one that is at least two is a number. -/
theorem isFinite_div {x y : Float} {sign : Sign} {m : Nat} {e : Int} {hm : 0 < m}
    (hx : x.isFinite = true) (hy : unpack y = .finite sign m e hm) (htwo : 1 ≤ m.log2 + e) :
    (x / y).isFinite = true := by
  refine isFinite_pack (u := div .binary64 (unpack x) (unpack y)) ?_
  have hfits := fits_unpack_iff.2 hx
  have hcanonical := canonical_unpack x
  rw [hy]
  generalize unpack x = u at *
  have hquotient {sign' : Sign} {m' : Nat} {e' : Int} {hm' : 0 < m'}
      (hlog : m'.log2 + e' ≤ 1023) :
      Fits (div .binary64 (.finite sign' m' e' hm') (.finite sign m e hm)) := by
    have hle := log2_div_le m' (e' - e - min (e' - e) (Format.binary64.targetExponent
      (totalExponent m' e' - totalExponent m e))).toNat hm
    refine fits_roundWithAccuracy ?_ ?_
    · show min _ _ ≤ (971 : Int)
      simp only [targetExponent_eq, totalExponent]
      omega
    · show ((_ / m).log2 : Int) + 1 + min _ _ ≤ 1023
      simp only [targetExponent_eq, totalExponent] at *
      omega
  cases hcanonical with
  | infinity => exact absurd hfits id
  | notANumber => exact absurd hfits id
  | zero => trivial
  | @subnormal _ m' _ hlt =>
      have := log2_le_of_lt_two_pow (n := 51) hlt
      exact hquotient (by omega)
  | @normal _ m' _ _ _ hlt =>
      have := log2_le_of_lt_two_pow (n := 52) hlt
      exact hquotient (by omega)

/-! ## Powers of ten -/

/-- A power of ten that is no larger than the doubles are is rounded to a number that does not lose
its leading bit. -/
theorem unpack_ofDecimal_one {k : Nat} (hk : k ≤ 308) :
    ∃ (m : Nat) (e : Int) (hm : 0 < m),
      unpack (ofDecimal 1 k) = .finite .positive m e hm ∧ (10 ^ k).log2 ≤ m.log2 + e := by
  by_cases hlast : k = 308
  · -- the one power whose bits alone do not show that rounding stays below infinity
    subst hlast
    have hvalue : ofDecimal 1 308 = pack (.finite .positive 5010420900022432 971 (by decide)) := by
      decide +kernel
    have hbits : Nat.log2 5010420900022432 = 52 := by decide +kernel
    have hlog : (10 ^ 308).log2 = 1023 := by decide +kernel
    refine ⟨5010420900022432, 971, by decide, ?_, by rw [hbits, hlog]; decide⟩
    show unpack (ofDecimal 1 308) = _
    rw [hvalue]
    exact unpack_pack hbits (by decide) (by decide)
  · have hscaled : (2 ^ 53 * 10 ^ k).log2 = (10 ^ k).log2 + 53 := by
      rw [Nat.mul_comm, ← Nat.shiftLeft_eq, log2_shiftLeft (by positivity)]
    have hlog : (10 ^ k).log2 ≤ 1019 := by
      refine log2_le_of_lt_two_pow ?_
      calc 10 ^ k ≤ 10 ^ 307 := Nat.pow_le_pow_right (by decide) (by omega)
        _ < 2 ^ (1019 + 1) := by decide +kernel
    obtain ⟨m, e, hm, hround, hbits, hlo, hhi⟩ :=
      exists_roundWithAccuracy (m := 2 ^ 53 * 10 ^ k) (e := -53) .positive .exact (by omega)
        (by omega)
    refine ⟨m, e, hm, ?_, by omega⟩
    have hproduct : UnpackedFloat.ofScientific .binary64 1 k = .finite .positive m e hm := by
      rw [← hround, UnpackedFloat.ofScientific, dif_neg (by decide), if_neg, if_neg, if_pos]
      · rfl
      · omega
      · show ¬(k : Int) < -(2 ^ 11 + (Nat.log2 1 : Nat))
        omega
      · show ¬(k : Int) > 2 ^ 11
        omega
    show unpack (pack (UnpackedFloat.ofScientific .binary64 1 k)) = _
    rw [hproduct]
    exact unpack_pack hbits (by omega) (by omega)

/-! ## Integers -/

theorem round_eq (sign : Sign) (k : Nat) :
    UnpackedFloat.round .binary64 sign k 0 =
      roundWithAccuracy .binary64 sign (k <<< (52 - k.log2)) (-(52 - k.log2 : Nat)) .exact := by
  have hshift : (0 - Format.binary64.targetExponent (totalExponent k 0)).toNat = 52 - k.log2 := by
    rw [targetExponent_eq, totalExponent]
    omega
  rw [UnpackedFloat.round]
  dsimp only [decreaseExponent]
  rw [hshift, Int.zero_sub]

theorem ofInt_eq (n : Int) :
    UnpackedFloat.ofInt .binary64 n =
      if n = 0 then .zero .positive
      else UnpackedFloat.round .binary64 (if n < 0 then .negative else .positive) n.natAbs 0 := by
  rw [UnpackedFloat.ofInt, UnpackedFloat.normalize]
  obtain h | h | h := Int.lt_trichotomy n 0
  · have habs : (-n).toNat = n.natAbs := by omega
    rw [Int.compare_eq_lt.2 h, if_neg h.ne, if_pos h, ← habs]
  · subst h
    rfl
  · have habs : n.toNat = n.natAbs := by omega
    rw [Int.compare_eq_gt.2 h, if_neg h.ne', if_neg (by omega), ← habs]

/-- The integers of sixty-four bits are not too large for a double. -/
theorem isFinite_ofInt {n : Int} (h : n.natAbs ≤ 2 ^ 64) : (ofInt n).isFinite = true := by
  refine isFinite_pack (u := UnpackedFloat.ofInt .binary64 n) ?_
  rw [ofInt_eq]
  split
  · trivial
  · next hn =>
    rw [round_eq]
    refine fits_roundWithAccuracy (by omega) ?_
    have hlog : n.natAbs.log2 ≤ 64 := log2_le_of_lt_two_pow (by omega)
    rw [totalExponent, log2_shiftLeft (by omega)]
    omega

theorem sign_of_apply {sign : Sign} {k : Nat} (hk : 0 < k) :
    (if sign.apply (k : Int) < 0 then Sign.negative else .positive) = sign := by
  cases sign with
  | negative => exact if_pos (show -(k : Int) < 0 by omega)
  | positive => exact if_neg (show ¬(k : Int) < 0 by omega)

theorem natAbs_apply (sign : Sign) (k : Nat) : (sign.apply (k : Int)).natAbs = k := by
  cases sign with
  | negative => exact Int.natAbs_neg _
  | positive => rfl

/-- An integer that a mantissa with all its bits is a multiple of is the double with this
mantissa. -/
theorem ofInt_scaled {sign : Sign} {m k j : Nat} {hm : 0 < m} (hlo : 2 ^ 52 ≤ m) (hhi : m < 2 ^ 53)
    (hk : k * 2 ^ j = m) :
    UnpackedFloat.ofInt .binary64 (sign.apply k) = .finite sign m (-j) hm := by
  have hpos : 0 < k := Nat.pos_of_mul_pos_right (hk ▸ hm)
  have hbits : k.log2 + j = 52 := by
    rw [← log2_shiftLeft hpos.ne', Nat.shiftLeft_eq, hk, Nat.log2_eq_iff hm.ne']
    exact ⟨hlo, hhi⟩
  have hshift : 52 - k.log2 = j := by omega
  have hlog : m.log2 = 52 := (Nat.log2_eq_iff hm.ne').2 ⟨hlo, hhi⟩
  have hne : sign.apply (k : Int) ≠ 0 := by
    intro h
    have := natAbs_apply sign k
    rw [h] at this
    omega
  rw [ofInt_eq, if_neg hne, sign_of_apply hpos, natAbs_apply, round_eq, hshift, Nat.shiftLeft_eq]
  subst hk
  refine roundWithAccuracy_exact hm ?_
  rw [targetExponent_eq, totalExponent, hlog]
  omega

theorem eq_of_scaled? {m k : Nat} {e : Int} (h : scaled? m e = some k) :
    0 ≤ e ∧ k = m * 2 ^ e.toNat ∨ e < 0 ∧ k * 2 ^ (-e).toNat = m := by
  rw [scaled?] at h
  split at h
  · next he => exact .inl ⟨he, (Option.some.inj h).symm⟩
  · next he =>
    split at h
    · next hmod =>
      cases h
      exact .inr ⟨by omega, Nat.div_mul_cancel (Nat.dvd_of_mod_eq_zero hmod)⟩
    · cases h

theorem toInt?_cases {x : Float} {n : Int} (h : toInt? x = some n) :
    (∃ sign, unpack x = .zero sign ∧ n = 0) ∨
      ∃ (sign : Sign) (m k : Nat) (e : Int) (hm : 0 < m),
        unpack x = .finite sign m e hm ∧ scaled? m e = some k ∧ n = sign.apply k := by
  rw [toInt?] at h
  split at h
  · next sign hx =>
    cases h
    exact .inl ⟨sign, hx, rfl⟩
  · next sign m e hm hx =>
    obtain ⟨_, hlift, rfl⟩ := Option.map_eq_some_iff.1 h
    obtain ⟨k, hk, hcast⟩ := Option.bind_eq_some_iff.1 hlift
    cases hcast
    exact .inr ⟨sign, m, k, e, hm, hx, hk, rfl⟩
  · cases h
  · cases h

theorem isFinite_of_toInt? {x : Float} {n : Int} (h : toInt? x = some n) : x.isFinite = true := by
  show (unpack x).isFinite = true
  obtain ⟨_, hx, -⟩ | ⟨_, _, _, _, _, hx, -, -⟩ := toInt?_cases h
  · rw [hx]
    rfl
  · rw [hx]
    rfl

/-- An integer of no more bits than a mantissa is the double that it is read from, where a zero
loses its sign. -/
theorem ofInt_of_toInt? {x : Float} {n : Int} (hx : toInt? x = some n) (hn : n.natAbs < 2 ^ 53) :
    ofInt n = x ∨ ofInt n = zero .positive ∧ x = zero .negative := by
  have hcanonical := canonical_unpack x
  rw [← pack_unpack x]
  obtain ⟨sign, hu, rfl⟩ | ⟨sign, m, k, e, hm, hu, hk, rfl⟩ := toInt?_cases hx
  · rw [hu]
    cases sign with
    | positive => exact .inl rfl
    | negative => exact .inr ⟨rfl, rfl⟩
  · rw [hu] at hcanonical ⊢
    rw [natAbs_apply] at hn
    have hk := eq_of_scaled? hk
    refine .inl (congrArg pack ?_)
    cases hcanonical with
    | subnormal hlt =>
        -- a number below the least normal one is no integer
        obtain ⟨he, -⟩ | ⟨-, hk⟩ := hk
        · exact absurd he (by decide)
        · have hpos : 0 < k := Nat.pos_of_mul_pos_right (hk ▸ hm)
          have hle : 2 ^ 52 ≤ k * 2 ^ (-(-1074) : Int).toNat :=
            (Nat.pow_le_pow_right (by decide) (by decide)).trans (Nat.le_mul_of_pos_left _ hpos)
          omega
    | normal hlo hhi =>
        obtain ⟨he, hk⟩ | ⟨he, hk⟩ := hk
        · have hzero : e.toNat = 0 := by
            by_contra hne
            have hle : m * 2 ^ 1 ≤ m * 2 ^ e.toNat :=
              Nat.mul_le_mul_left _ (Nat.pow_le_pow_right (by decide) (by omega))
            omega
          obtain rfl : e = 0 := by omega
          have hkm : k = m := hk.trans (Nat.mul_one m)
          exact ofInt_scaled hlo hhi (j := 0) ((Nat.mul_one k).trans hkm)
        · have hneg : -((-e).toNat : Int) = e := by omega
          have hexact : UnpackedFloat.ofInt .binary64 (sign.apply k) =
              .finite sign m (-((-e).toNat : Int)) hm := ofInt_scaled hlo hhi hk
          rwa [hneg] at hexact

end HttpDoctest.Number
