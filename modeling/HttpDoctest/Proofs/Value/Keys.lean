import HttpDoctest.Expression.Evaluation
import HttpDoctest.Proofs.Number.Decimals
import HttpDoctest.Proofs.Number.Doubles

set_option autoImplicit false

/-! # Numbers and their texts as keys

A number finds the same members as its text (`number_and_text_are_one_key`). Objects and the store
look up texts, so only positions in texts and arrays need an argument: the text of a number is made
of digits that are its position, or has a character that stands in no position, and then the number
is none either (`keyText_textOfNumber`). The numbers in doubt are those that are not written as
integers: fractions have a point, and integers of more than twenty-one digits are beyond all
positions, whatever their shortest decimal is.
-/

namespace HttpDoctest

namespace Number

open Float.Model.UnpackedFloat (Sign)

variable {x : Float}

/-! ## Positions written in digits -/

theorem ofDigits_digits (n : Nat) : ofDigits (digits n) = n :=
  Nat.ofDigitChars_ten_toDigits

theorem ofDigits_digits_zeros (n k : Nat) :
    ofDigits (digits n ++ List.replicate k '0') = n * 10 ^ k :=
  calc Nat.ofDigitChars 10 (Nat.toDigits 10 n ++ List.replicate k '0') 0
      = 10 ^ k * Nat.ofDigitChars 10 (Nat.toDigits 10 n) 0 := by
        rw [Nat.ofDigitChars_append, Nat.ofDigitChars_replicate_zero]
    _ = n * 10 ^ k := by rw [Nat.ofDigitChars_ten_toDigits, Nat.mul_comm]

theorem isDigit_of_mem_digits {n : Nat} {c : Char} (h : c ∈ digits n) : c.isDigit = true :=
  Nat.isDigit_of_mem_toDigits (by decide) (by decide) h

theorem digits_ne_nil (n : Nat) : digits n ≠ [] :=
  Nat.toDigits_ne_nil

theorem indexOfText?_of_digits {ds : List Char} (hne : ds ≠ [])
    (hdigits : ∀ c ∈ ds, c.isDigit = true) :
    indexOfText? ds = if ofDigits ds < indexLimit then some (ofDigits ds) else none := by
  have hall : (ds.isEmpty || !ds.all Char.isDigit) = false := by
    simp [hne, List.all_eq_true.2 hdigits]
  have hplus : ∀ ds', ds ≠ '+' :: ds' := by
    rintro ds' rfl
    exact absurd (hdigits '+' List.mem_cons_self) (by decide)
  unfold indexOfText?
  split
  · next ds' => exact absurd rfl (hplus ds')
  · rw [if_neg (Bool.not_eq_true _ ▸ hall)]

/-- A character that is neither a digit nor a plus sign stands in no position. -/
theorem indexOfText?_eq_none {text : List Char} {c : Char} (hmem : c ∈ text)
    (hdigit : c.isDigit = false) (hplus : c ≠ '+') : indexOfText? text = none := by
  have hnone {ds : List Char} (h : c ∈ ds) : (ds.isEmpty || !ds.all Char.isDigit) = true := by
    have hall : ds.all Char.isDigit = false := by
      rw [List.all_eq_false]
      exact ⟨c, h, by simp [hdigit]⟩
    simp [hall]
  unfold indexOfText?
  split
  · next ds =>
    have hds : c ∈ ds := (List.mem_cons.1 hmem).resolve_left hplus
    rw [if_pos (hnone hds)]
  · rw [if_pos (hnone hmem)]

/-! ## Positions given as numbers -/

theorem index?_of_toInt?_eq_none (h : toInt? x = none) : index? x = none := by
  rw [index?, h]

theorem index?_of_neg {n : Int} (h : toInt? x = some n) (hn : n < 0) : index? x = none := by
  rw [index?, h]
  cases n with
  | ofNat n => exact absurd hn (Int.not_lt.2 (Int.natCast_nonneg n))
  | negSucc => rfl

theorem index?_of_nat {n : Nat} (h : toInt? x = some (n : Int)) :
    index? x = if n < indexLimit then some n else none := by
  rw [index?, h]

/-- The position that a number is cast to, where the last one stands for all behind it. -/
def castIndex? (x : Float) : Option Nat :=
  match toInt? x with
  | some (.ofNat n) => some (min n (indexLimit - 1))
  | _ => none

/-- A list is never so long that its items are at positions behind the last one, and so it does not
matter that a cast stops there. -/
theorem getElem?_castIndex? {α : Type} {items : List α} (h : items.length < indexLimit)
    (x : Float) : (castIndex? x).bind (items[·]?) = (index? x).bind (items[·]?) := by
  unfold castIndex? index?
  cases toInt? x with
  | none => rfl
  | some n =>
      cases n with
      | negSucc n => rfl
      | ofNat n =>
          dsimp only
          rw [Option.bind_some]
          by_cases hn : n < indexLimit
          · rw [if_pos hn, Nat.min_eq_left (Nat.le_sub_one_of_lt hn), Option.bind_some]
          · rw [if_neg hn, Option.bind_none, List.getElem?_eq_none_iff]
            omega

/-! ## The text of a number -/

/-- What the text of a number is as a key: digits that make up the position that the number is, or
no position where the number is none either. -/
inductive KeyText (x : Float) : List Char → Prop
  | position {ds : List Char} :
      ds ≠ [] → (∀ c ∈ ds, c.isDigit = true) →
        index? x = (if ofDigits ds < indexLimit then some (ofDigits ds) else none) → KeyText x ds
  | other {text : List Char} {c : Char} :
      c ∈ text → c ∈ ['-', '.', 'N', 'I'] → index? x = none → KeyText x text

theorem KeyText.of_digits {n : Nat} (h : index? x = if n < indexLimit then some n else none) :
    KeyText x (digits n) := by
  refine .position (digits_ne_nil n) (fun c hc => isDigit_of_mem_digits hc) ?_
  rw [ofDigits_digits, h]

/-- A minus sign is written in front of a number below zero. -/
theorem keyText_negative {n : Int} {text : List Char} (hx : toInt? x = some n) (hn : n < 0) :
    KeyText x ('-' :: text) :=
  .other List.mem_cons_self (by decide) (index?_of_neg hx hn)

/-- A double of more than twenty-one digits is a multiple of four. -/
theorem eq_mul_of_large {m k : Nat} {e : Int} (hlt : m < 2 ^ 53) (hk : scaled? m e = some k)
    (hlarge : 10 ^ 21 ≤ k) : 2 ≤ e ∧ k = m * 2 ^ e.toNat := by
  obtain ⟨he, hk⟩ | ⟨he, hk⟩ := eq_of_scaled? hk
  · refine ⟨?_, hk⟩
    by_contra hsmall
    have hpow : 2 ^ e.toNat ≤ 2 ^ 1 := Nat.pow_le_pow_right (by decide) (by omega)
    have hle : m * 2 ^ e.toNat ≤ m * 2 ^ 1 := Nat.mul_le_mul_left m hpow
    omega
  · have hle : k ≤ k * 2 ^ (-e).toNat := Nat.le_mul_of_pos_right k (Nat.two_pow_pos _)
    omega

/-- The shortest decimal of a large integer, if it has no places, is beyond all positions. -/
theorem indexLimit_le_shortest {m k : Nat} {e : Int} {tie : Tie} (hm : 0 < m) (hlt : m < 2 ^ 53)
    (htop : e ≤ 971) (hk : scaled? m e = some k) (hlarge : 10 ^ 21 ≤ k)
    (hplaces : 0 ≤ (shortest tie m e).exponent) :
    indexLimit ≤ (shortest tie m e).significand * 10 ^ (shortest tie m e).exponent.toNat := by
  obtain ⟨he, rfl⟩ := eq_mul_of_large hlt hk hlarge
  have hhalf := le_two_mul_shortest hm hlt he htop hplaces
  have hlimit : indexLimit ≤ 10 ^ 21 / 2 := by decide
  omega

/-- An integer of more than twenty-one digits is beyond all positions, and so is its shortest
decimal. -/
theorem keyText_plain_of_large {n : Int} (hx : toInt? x = some n) (hn : 10 ^ 21 ≤ n.natAbs) :
    KeyText x (plain x) := by
  obtain ⟨_, -, rfl⟩ | ⟨sign, m, k, e, hm, hu, hk, rfl⟩ := toInt?_cases hx
  · exact absurd hn (by decide)
  have hcanonical := canonical_unpack x
  rw [natAbs_apply] at hn
  rw [hu] at hcanonical
  rw [plain, hu]
  dsimp only
  cases sign with
  | negative =>
      have hneg : Sign.apply .negative (k : Int) < 0 := by
        show -(k : Int) < 0
        omega
      exact keyText_negative hx hneg
  | positive =>
      have hindex : index? x = none := by
        rw [index?_of_nat hx, if_neg]
        exact Nat.not_lt.2 (le_trans (by decide) hn)
      obtain ⟨hlt, htop⟩ := hcanonical.bounds
      by_cases hplaces : 0 ≤ (shortest .up m e).exponent
      · have hbeyond := indexLimit_le_shortest hm hlt htop hk hn hplaces
        rw [signText, List.nil_append, Decimal.positional_of_nonneg hplaces]
        refine .position (by simp [digits_ne_nil]) ?_ ?_
        · intro c hc
          rcases List.mem_append.1 hc with hc | hc
          · exact isDigit_of_mem_digits hc
          · rw [List.eq_of_mem_replicate hc]
            decide
        · rw [hindex, ofDigits_digits_zeros, if_neg (Nat.not_lt.2 hbeyond)]
      · exact .other (Decimal.point_mem_positional (Int.not_le.1 hplaces)) (by decide) hindex

/-- A number that is no integer is written with a point or with letters. -/
theorem keyText_plain_of_fraction (hfinite : x.isFinite = true) (hx : toInt? x = none) :
    KeyText x (plain x) := by
  have hcanonical := canonical_unpack x
  replace hfinite : (unpack x).isFinite = true := hfinite
  have hindex := index?_of_toInt?_eq_none hx
  rw [plain]
  rw [toInt?] at hx
  cases hu : unpack x with
  | notANumber =>
      rw [hu] at hfinite
      cases hfinite
  | infinity =>
      rw [hu] at hfinite
      cases hfinite
  | zero =>
      rw [hu] at hx
      cases hx
  | finite sign m e hm =>
      rw [hu] at hx hcanonical
      have hnone : scaled? m e = none := by
        cases hscaled : scaled? m e with
        | none => rfl
        | some k =>
            dsimp only at hx
            rw [hscaled] at hx
            cases hx
      have he : e < 0 := by
        by_contra hle
        rw [scaled?, if_pos (Int.not_lt.1 hle)] at hnone
        cases hnone
      have hplaces : (shortest .up m e).exponent < 0 :=
        exponent_shortest_neg hcanonical.bounds.1 he hnone
      have hpoint := Decimal.point_mem_positional hplaces
      exact .other (List.mem_append_right _ hpoint) (by decide) hindex

theorem keyText_textOfNumber (x : Float) : KeyText x (Value.textOfNumber x) := by
  unfold Value.textOfNumber
  split
  · next hu =>
    refine .other (c := 'N') (by decide) (by decide) (index?_of_toInt?_eq_none ?_)
    rw [toInt?, hu]
  · next sign hu =>
    refine .other (c := 'I') (List.mem_append_right _ (by decide)) (by decide)
      (index?_of_toInt?_eq_none ?_)
    rw [toInt?, hu]
  · next hnan hinfinity =>
    have hfinite : x.isFinite = true := by
      show (unpack x).isFinite = true
      cases hu : unpack x with
      | notANumber => exact absurd hu hnan
      | infinity sign => exact absurd hu (hinfinity sign)
      | zero | finite => rfl
    split
    · next n hx =>
      split
      · cases n with
        | ofNat n => exact .of_digits (index?_of_nat hx)
        | negSucc n => exact keyText_negative hx (Int.negSucc_lt_zero n)
      · next hlarge => exact keyText_plain_of_large hx (Nat.not_lt.1 hlarge)
    · next hx => exact keyText_plain_of_fraction hfinite hx

end Number

/-! ## Members -/

namespace Value

open Number (KeyText keyText_textOfNumber)

/-- The text of a number stands for the position that the number is. -/
theorem index?_text (x : Float) : (string (number x).text).index? = (number x).index? := by
  show Number.indexOfText? (String.ofList (textOfNumber x)).toList = Number.index? x
  rw [String.toList_ofList]
  cases keyText_textOfNumber x with
  | position hne hdigits hindex => rw [Number.indexOfText?_of_digits hne hdigits, hindex]
  | @other c hmem hc hindex =>
      have hclass : ∀ c ∈ ['-', '.', 'N', 'I'], c.isDigit = false ∧ c ≠ '+' := by
        simp [Char.isDigit]
      obtain ⟨hdigit, hplus⟩ := hclass c hc
      rw [Number.indexOfText?_eq_none hmem hdigit hplus, hindex]

/-- No number is written like the name of the length. -/
theorem isLength_text (x : Float) : (string (number x).text).isLength = false := by
  refine beq_eq_false_iff_ne.2 fun hlength => ?_
  have htext : textOfNumber x = "length".toList := by
    rw [← hlength, text, String.toList_ofList]
  have hkey := keyText_textOfNumber x
  rw [htext] at hkey
  cases hkey with
  | position _ hdigits => exact absurd (hdigits 'l' (by decide)) (by decide)
  | @other c hmem hc =>
      have hnone : ∀ c ∈ "length".toList, c ∉ ['-', '.', 'N', 'I'] := by simp
      exact hnone c hmem hc

/-- A value has the same property under a number and under the text of the number. -/
theorem property_text (base : Value) (x : Float) :
    base.property (string (number x).text) = base.property (number x) := by
  have hname : (string (number x).text).text = (number x).text := rfl
  have hnumber : (number x).isLength = false := rfl
  cases base with
  | undefined => rw [property, property, hname]
  | null => rw [property, property, hname]
  | bool => rfl
  | number => rfl
  | string s =>
      rw [property, property, isLength_text, hnumber]
      simp only [Bool.false_eq_true, if_false, index?_text]
  | array items =>
      rw [property, property, isLength_text, hnumber]
      simp only [Bool.false_eq_true, if_false, index?_text]
  | object fields => rw [property, property, hname]

end Value

/-! ## Expressions -/

namespace Expr

variable {scope : Scope}

theorem eval_text_of_number {key : Expr} {x : Float} (hkey : key.eval scope = .ok (.number x)) :
    (binary .add (literal (.string "")) key).eval scope = .ok (.string (Value.number x).text) := by
  rw [eval, eval, hkey]
  show Except.ok (Value.string ("" ++ (Value.number x).text)) = _
  rw [String.empty_append]

/-- Whether a key is a number or the text of that number, it finds the same member of an expression,
or fails in the same way: a character of a text, an item of an array, a field of an object, an entry
of the store, a part of the response, or nothing. A cast of the number finds the same item as well,
though it stops at the last position there is. -/
theorem number_and_text_are_one_key {key : Expr} {x : Float}
    (hkey : key.eval scope = .ok (.number x)) (object : Expr) :
    (member object (binary .add (literal (.string "")) key)).eval scope =
        (member object key).eval scope ∧
      ∀ {α : Type} {items : List α}, items.length < Number.indexLimit →
        (Number.castIndex? x).bind (items[·]?) = (Number.index? x).bind (items[·]?) := by
  refine ⟨?_, fun hitems => Number.getElem?_castIndex? hitems x⟩
  have htext : (Value.string (Value.number x).text).text = (Value.number x).text := rfl
  rw [eval, eval, eval_text_of_number hkey, hkey]
  dsimp only [bind, Except.bind]
  split
  · rw [Scope.thisMember, Scope.thisMember, Scope.stored, Scope.stored, htext]
  · rw [Scope.stored, Scope.stored, htext]
  · simp only [Value.property_text]

/-- Negative zero is written without its sign, and finds the first character all the same. -/
theorem negative_zero_is_one_key :
    let scope : Scope := ⟨⟨200, .undefined, "", ∅⟩, ∅⟩
    let key := unary .negate (literal (.number (Number.ofInt 0)))
    key.eval scope = .ok (.number (Number.zero .negative)) ∧
      (member (literal (.string "é!")) (binary .add (literal (.string "")) key)).eval scope =
        .ok (.string "é") := by
  intro scope key
  have hkey : key.eval scope = .ok (.number (Number.zero .negative)) := rfl
  refine ⟨hkey, (number_and_text_are_one_key hkey (literal (.string "é!"))).1.trans ?_⟩
  rfl

end Expr

end HttpDoctest
