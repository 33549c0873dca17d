import HttpDoctest.Json.Reader
import HttpDoctest.Proofs.Execution
import HttpDoctest.Proofs.Number.Doubles
import HttpDoctest.Proofs.Table
import HttpDoctest.Value.Text

set_option autoImplicit false

/-! # What the reader of JSON gives

The numbers that the reader gives are finite: one that is too large is a fault. And no object that
it gives has two fields of one name, since a name that comes again takes the place of the first. So
all that it gives is well-formed (`wellFormed_of_ofText`).
-/

namespace HttpDoctest

open Number (ofInt ofDecimal zero unpack)

/-- Whether the number is finite. -/
def JsonNumber.IsFinite (n : JsonNumber) : Prop :=
  (Value.numberOfJson n).isFinite = true

namespace Json

/-- Whether all numbers inside are finite, and no object has two fields of one name. -/
inductive WellFormed : Json → Prop
  | null : WellFormed null
  | bool (b : Bool) : WellFormed (bool b)
  | number {n : JsonNumber} : n.IsFinite → WellFormed (number n)
  | string (s : String) : WellFormed (string s)
  | array {items : List Json} : (∀ item ∈ items, WellFormed item) → WellFormed (array items)
  | object {fields : List (String × Json)} :
      (fields.map Prod.fst).Nodup → (∀ field ∈ fields, WellFormed field.2) →
      WellFormed (object fields)

namespace Reader

variable {α β : Type} {m n : Nat} {P : α → Prop} {Q : β → Prop}

/-! ## What a reader gives -/

/-- Whether the value that is read, if one is, is as `P` tells. -/
def Gives (P : α → Prop) (result : Result α n) : Prop :=
  ∀ found, result = .ok found → P found.value

theorem gives_ok {found : Reading Char α n} (h : P found.value) :
    Gives P (.ok found : Result α n) := by
  rintro _ ⟨⟩
  exact h

theorem gives_error {stop : Stop} : Gives P (.error stop : Result α n) :=
  nofun

theorem gives_any (result : Result α n) : Gives (fun _ => True) result :=
  fun _ _ => trivial

theorem Gives.bind {action : Result α m} {rest : Reading Char α m → Result β n} (h : Gives P action)
    (hrest : ∀ found, P found.value → Gives Q (rest found)) : Gives Q (action >>= rest) := by
  cases action with
  | error stop => exact gives_error
  | ok found => exact hrest found (h found rfl)

theorem Gives.weaken {result : Result α m} (h : Gives P result) (hle : m ≤ n) :
    Gives P (result.map (·.weaken hle)) := by
  cases result with
  | error stop => exact gives_error
  | ok found => exact gives_ok (h found rfl)

/-! ## Numbers -/

theorem significand_collect_lt (found : Collected) (text : List Char)
    (h : found.significand < significandLimit) :
    (collect found text).value.significand < significandLimit := by
  induction text generalizing found with
  | nil => exact h
  | cons c text ih =>
      rw [collect]
      split
      · next hc => exact ih _ hc.2
      · exact h

theorem digitValue_lt {c : Char} (h : c.isDigit = true) : digitValue c < significandLimit := by
  have hle : c.toNat ≤ 57 := by
    rw [Char.isDigit, Bool.and_eq_true, decide_eq_true_eq, decide_eq_true_eq] at h
    exact h.2
  calc digitValue c ≤ c.toNat := Nat.sub_le _ _
    _ ≤ 57 := hle
    _ < significandLimit := by decide

theorem isFinite_ofInt_significand {significand : Nat} (h : significand < significandLimit) :
    (ofInt significand).isFinite = true :=
  Number.isFinite_ofInt h.le

theorem isFinite_div_power {x : Float} {k : Nat} (hx : x.isFinite = true) (hpos : 1 ≤ k)
    (hk : k ≤ 308) : (x / ofDecimal 1 k).isFinite = true := by
  obtain ⟨m, e, hm, hpower, hlog⟩ := Number.unpack_ofDecimal_one hk
  have hbits : 1 ≤ (10 ^ k).log2 := by
    refine (Nat.le_log2 (by positivity)).2 ?_
    calc 2 ^ 1 ≤ 10 ^ 1 := by decide
      _ ≤ 10 ^ k := Nat.pow_le_pow_right (by decide) hpos
  exact Number.isFinite_div hx hpower (by omega)

theorem isFinite_power {k : Nat} (hk : k ≤ 308) : (ofDecimal 1 k).isFinite = true := by
  obtain ⟨m, e, hm, hpower, -⟩ := Number.unpack_ofDecimal_one hk
  show (unpack (ofDecimal 1 k)).isFinite = true
  rw [hpower]
  rfl

/-- A number that is scaled by a power of ten stays finite, or is a fault. -/
theorem isFinite_of_scale? {x y : Float} {exponent : Int} (hx : x.isFinite = true)
    (h : scale? x exponent = some y) : y.isFinite = true := by
  fun_induction scale? x exponent with
  | case1 x exponent hlow hzero =>
      cases h
      exact hx
  | case2 x exponent hlow hzero ih =>
      exact ih (isFinite_div_power (k := 308) hx (by decide) (by decide)) h
  | case3 x exponent hlow hneg =>
      cases h
      obtain ⟨k, hk⟩ := Int.eq_ofNat_of_zero_le (a := -exponent) (by omega)
      rw [hk]
      exact isFinite_div_power hx (by omega) (by omega)
  | case4 x exponent hlow hneg hhigh y hinf => cases h
  | case5 x exponent hlow hneg hhigh product hinf =>
      rw [← Option.some.inj h]
      obtain ⟨k, rfl⟩ := Int.eq_ofNat_of_zero_le (a := exponent) (by omega)
      exact Number.isFinite_mul hx (isFinite_power (by omega)) (Bool.eq_false_iff.2 hinf)
  | case6 x exponent hlow hneg hhigh hzero =>
      cases h
      exact hx
  | case7 => cases h

theorem isFinite_signed {x : Float} (negative : Bool) (hx : x.isFinite = true) :
    (signed negative x).isFinite = true := by
  rw [signed]
  split
  · exact Number.isFinite_neg hx
  · exact hx

section Number

variable {significand : Nat} (hsignificand : significand < significandLimit)
include hsignificand

theorem gives_scaled (negative : Bool) (exponent : Int) (rest : List Char)
    (hrest : rest.length < n) :
    Gives JsonNumber.IsFinite (scaled negative significand exponent rest hrest) := by
  rw [scaled]
  split
  · next x hscale =>
    have hx := isFinite_of_scale? (isFinite_ofInt_significand hsignificand) hscale
    exact gives_ok (isFinite_signed negative hx)
  · exact gives_error

theorem gives_power (negative : Bool) (exponent : Int) (text : List Char) :
    Gives JsonNumber.IsFinite (power negative significand exponent text) := by
  unfold power
  split
  next down ds _ =>
  split
  · exact gives_error
  · split
    · extract_lets ten hrest
      split
      · exact gives_scaled hsignificand negative _ _ _
      · split
        · exact gives_error
        · exact gives_ok (isFinite_signed negative (by decide +kernel))
    · exact gives_error

theorem gives_afterDigits (negative : Bool) (exponent : Int) (text : List Char) :
    Gives JsonNumber.IsFinite (afterDigits negative significand exponent text) := by
  unfold afterDigits
  split
  · exact gives_scaled hsignificand negative _ _ _
  · split
    · exact (gives_power hsignificand negative _ _).weaken _
    · exact gives_scaled hsignificand negative _ _ _

theorem gives_places (negative : Bool) (exponent : Int) (text : List Char) :
    Gives JsonNumber.IsFinite (places negative significand exponent text) := by
  have hfound := significand_collect_lt ⟨significand, 0⟩ text hsignificand
  unfold places
  extract_lets found exponent
  split
  · exact (gives_afterDigits hfound negative _ _).weaken _
  · split
    · split
      · exact gives_error
      · exact gives_error
    · exact (gives_afterDigits hfound negative _ _).weaken _

theorem isFinite_whole (negative : Bool) : (whole negative significand).IsFinite := by
  have hfinite := isFinite_ofInt_significand hsignificand
  rw [whole]
  split
  · split
    · refine Number.isFinite_ofInt ?_
      rw [Int.natAbs_neg]
      exact hsignificand.le
    · exact Number.isFinite_neg hfinite
  · exact hfinite

theorem gives_afterWhole (negative : Bool) (dropped : Nat) (text : List Char) :
    Gives JsonNumber.IsFinite (afterWhole negative significand dropped text) := by
  unfold afterWhole
  split
  · exact (gives_places hsignificand negative _ _).weaken _
  · split
    · exact gives_ok (isFinite_whole hsignificand negative)
    · exact gives_afterDigits hsignificand negative _ _

end Number

theorem gives_number (negative : Bool) (text : List Char) :
    Gives JsonNumber.IsFinite (number negative text) := by
  unfold number
  split
  · exact gives_error
  · next c rest =>
    split
    · split
      · exact gives_error
      · exact gives_afterWhole (by decide) negative _ _
    · split
      · next hdigit =>
        have hfound := significand_collect_lt ⟨digitValue c, 0⟩ rest (digitValue_lt hdigit)
        exact (gives_afterWhole hfound negative _ _).weaken _
      · exact gives_error

/-! ## Values -/

theorem wellFormed_object_of_fields {entries : List (String × Json)}
    (h : ∀ entry ∈ entries, entry.2.WellFormed) :
    WellFormed (object (entries.foldl (fun es e => putEntry e.1 e.2 es) [])) := by
  have hfold (taken : List (String × Json)) (hnodup : (taken.map Prod.fst).Nodup)
      (htaken : ∀ entry ∈ taken, entry.2.WellFormed) :
      WellFormed (object (entries.foldl (fun es e => putEntry e.1 e.2 es) taken)) := by
    induction entries generalizing taken with
    | nil => exact .object hnodup htaken
    | cons entry entries ih =>
        obtain ⟨hentry, hentries⟩ := List.forall_mem_cons.1 h
        refine ih hentries _ (nodup_putEntry hnodup) fun other hother => ?_
        rcases mem_of_mem_putEntry hother with rfl | hother
        · exact hentry
        · exact htaken other hother
  exact hfold [] List.nodup_nil (List.forall_mem_nil _)

mutual

theorem gives_value (depth : Nat) (text : List Char) : Gives WellFormed (value depth text) := by
  rw [value]
  split
  · exact gives_error
  · next c rest hskip =>
    have hlt : rest.length + 1 ≤ text.length := length_lt_of_skip hskip
    split
    · exact (gives_any _).bind fun found _ => gives_ok .null
    split
    · exact (gives_any _).bind fun found _ => gives_ok (.bool true)
    split
    · exact (gives_any _).bind fun found _ => gives_ok (.bool false)
    split
    · exact (gives_number true rest).bind fun found h => gives_ok (.number h)
    split
    · exact (gives_number false (c :: rest)).bind fun found h => gives_ok (.number h)
    split
    · exact (gives_any _).bind fun found _ => gives_ok (.string _)
    split
    · cases depth with
      | zero => exact gives_error
      | succ depth => exact (gives_items depth rest).bind fun found h => gives_ok (.array h)
    split
    · cases depth with
      | zero => exact gives_error
      | succ depth =>
        exact (gives_fields depth rest).bind fun found h => gives_ok (wellFormed_object_of_fields h)
    · exact gives_error
termination_by (text.length, 0)

theorem gives_items (depth : Nat) (text : List Char) :
    Gives (fun items => ∀ item ∈ items, item.WellFormed) (items depth text) := by
  rw [items]
  split
  · exact gives_error
  · exact gives_ok (List.forall_mem_nil _)
  · refine (gives_value depth text).bind fun first hfirst => ?_
    have := first.rest_lt
    exact (gives_moreItems depth first.rest).bind fun more hmore =>
      gives_ok (List.forall_mem_cons.2 ⟨hfirst, hmore⟩)
termination_by (text.length, 1)

theorem gives_moreItems (depth : Nat) (text : List Char) :
    Gives (fun items => ∀ item ∈ items, item.WellFormed) (moreItems depth text) := by
  rw [moreItems]
  split
  · exact gives_error
  · exact gives_ok (List.forall_mem_nil _)
  · next rest hskip =>
    have := length_lt_of_skip hskip
    split
    · exact gives_error
    · exact gives_error
    · refine (gives_value depth rest).bind fun first hfirst => ?_
      have := first.rest_lt
      exact (gives_moreItems depth first.rest).bind fun more hmore =>
        gives_ok (List.forall_mem_cons.2 ⟨hfirst, hmore⟩)
  · exact gives_error
termination_by (text.length, 1)

theorem gives_fields (depth : Nat) (text : List Char) :
    Gives (fun entries => ∀ entry ∈ entries, entry.2.WellFormed) (fields depth text) := by
  rw [fields]
  split
  · exact gives_error
  · exact gives_ok (List.forall_mem_nil _)
  · next rest hskip =>
    have := length_lt_of_skip hskip
    refine (gives_field depth rest).bind fun first hfirst => ?_
    have := first.rest_lt
    exact (gives_moreFields depth first.rest).bind fun more hmore =>
      gives_ok (List.forall_mem_cons.2 ⟨hfirst, hmore⟩)
  · exact gives_error
termination_by (text.length, 0)

theorem gives_moreFields (depth : Nat) (text : List Char) :
    Gives (fun entries => ∀ entry ∈ entries, entry.2.WellFormed) (moreFields depth text) := by
  rw [moreFields]
  split
  · exact gives_error
  · exact gives_ok (List.forall_mem_nil _)
  · next rest hskip =>
    have := length_lt_of_skip hskip
    split
    · exact gives_error
    · exact gives_error
    · next inner hinner =>
      have := length_lt_of_skip hinner
      refine (gives_field depth inner).bind fun first hfirst => ?_
      have := first.rest_lt
      exact (gives_moreFields depth first.rest).bind fun more hmore =>
        gives_ok (List.forall_mem_cons.2 ⟨hfirst, hmore⟩)
    · exact gives_error
  · exact gives_error
termination_by (text.length, 0)

theorem gives_field (depth : Nat) (text : List Char) :
    Gives (fun entry => entry.2.WellFormed) (field depth text) := by
  rw [field]
  refine (gives_any _).bind fun key _ => ?_
  have := key.rest_lt
  split
  · exact gives_error
  · next rest hskip =>
    have := length_lt_of_skip hskip
    exact (gives_value depth rest).bind fun content hcontent => gives_ok hcontent
  · exact gives_error
termination_by (text.length, 0)

end

end Reader

/-- What the reader gives has finite numbers and no name twice in an object. -/
theorem wellFormed_of_ofText {text : String} {json : Json} (h : ofText text = .ok json) :
    json.WellFormed := by
  rw [ofText] at h
  split at h
  · next found hfound =>
    cases h
    obtain ⟨reading, hreading, hrest⟩ := bind_eq_ok_iff.1 hfound
    split at hrest
    · cases hrest
      exact Reader.gives_value _ _ reading hreading
    · cases hrest
  · cases h

end Json

end HttpDoctest
