import HttpDoctest.Proofs.Number.Decimals
import HttpDoctest.Proofs.Number.Doubles
import HttpDoctest.Proofs.Value.Parts

set_option autoImplicit false

/-! # Integers inside containers

The text of a number alone is that of an integer up to twenty-one digits. The text of an array or an
object is JSON, and there a number is written as an integer below `2 ^ 53` only. From there on it
has a point or a power of ten (`text_of_integer_in_containers`).
-/

namespace HttpDoctest

open Number (toInt? intText digits)

/-! ## Writing around a value -/

namespace Json

variable {style : Style} {depth : Nat}

theorem writeItems_append (items others : List Json) :
    writeItems style depth (items ++ others) =
      writeItems style depth items ++ writeItems style depth others := by
  induction items with
  | nil => rfl
  | cons item items ih =>
      rw [List.cons_append, writeItems, writeItems, ih]
      simp only [List.cons_append, List.append_assoc]

theorem writeFields_append (fields others : List (String × Json)) :
    writeFields style depth (fields ++ others) =
      writeFields style depth fields ++ writeFields style depth others := by
  induction fields with
  | nil => rfl
  | cons field fields ih =>
      rw [List.cons_append, writeFields, writeFields, ih]
      simp only [List.cons_append, List.append_assoc]

/-- An item of an array has its text in the text of the array, between texts that do not depend on
it. -/
theorem write_item (style : Style) (depth : Nat) (front back : List Json) :
    ∃ before after : List Char, ∀ item,
      write style depth (array (front ++ item :: back)) =
        before ++ write style (depth + 1) item ++ after := by
  cases front with
  | nil =>
      refine ⟨'[' :: style.lineBreak (depth + 1),
        writeItems style (depth + 1) back ++ style.lineBreak depth ++ [']'], fun item => ?_⟩
      rw [List.nil_append, write]
      simp only [List.cons_append, List.append_assoc]
  | cons first front =>
      refine ⟨'[' :: style.lineBreak (depth + 1) ++ write style (depth + 1) first ++
        writeItems style (depth + 1) front ++ ',' :: style.lineBreak (depth + 1),
        writeItems style (depth + 1) back ++ style.lineBreak depth ++ [']'], fun item => ?_⟩
      rw [List.cons_append, write, writeItems_append, writeItems]
      simp only [List.cons_append, List.append_assoc]

/-- A field of an object has the text of its value in the text of the object, between texts that do
not depend on the value. -/
theorem write_field (style : Style) (depth : Nat) (name : String)
    (front back : List (String × Json)) :
    ∃ before after : List Char, ∀ value,
      write style depth (object (front ++ (name, value) :: back)) =
        before ++ write style (depth + 1) value ++ after := by
  cases front with
  | nil =>
      refine ⟨'{' :: style.lineBreak (depth + 1) ++ stringText name ++ style.colon,
        writeFields style (depth + 1) back ++ style.lineBreak depth ++ ['}'], fun value => ?_⟩
      rw [List.nil_append, write]
      simp only [List.cons_append, List.append_assoc]
  | cons first front =>
      obtain ⟨firstName, firstValue⟩ := first
      refine ⟨'{' :: style.lineBreak (depth + 1) ++ stringText firstName ++ style.colon ++
        write style (depth + 1) firstValue ++ writeFields style (depth + 1) front ++
        ',' :: style.lineBreak (depth + 1) ++ stringText name ++ style.colon,
        writeFields style (depth + 1) back ++ style.lineBreak depth ++ ['}'], fun value => ?_⟩
      rw [List.cons_append, write, writeFields_append, writeFields]
      simp only [List.cons_append, List.append_assoc]

end Json

/-! ## Nested containers -/

namespace Value

/-- An array or an object with a place for a value. -/
inductive Frame where
  | item (front back : List Value)
  | field (name : String) (front back : List (String × Value))

/-- The container with a value in its place. -/
def Frame.fill (value : Value) : Frame → Value
  | item front back => array (front ++ value :: back)
  | field name front back => object (front ++ (name, value) :: back)

/-- A value inside containers that stand in one another, from the outermost on. -/
def nest (value : Value) : List Frame → Value
  | [] => value
  | frame :: frames => frame.fill (nest value frames)

theorem write_fill (style : Json.Style) (depth : Nat) (frame : Frame) :
    ∃ before after : List Char, ∀ value,
      (frame.fill value).toJson.write style depth =
        before ++ value.toJson.write style (depth + 1) ++ after := by
  cases frame with
  | item front back =>
      obtain ⟨before, after, h⟩ :=
        Json.write_item style depth (front.map toJson) (back.map toJson)
      refine ⟨before, after, fun value => ?_⟩
      rw [Frame.fill, toJson_array, List.map_append, List.map_cons, h]
  | field name front back =>
      obtain ⟨before, after, h⟩ := Json.write_field style depth name
        (front.map fun field => (field.1, field.2.toJson))
        (back.map fun field => (field.1, field.2.toJson))
      refine ⟨before, after, fun value => ?_⟩
      rw [Frame.fill, toJson_object, List.map_append, List.map_cons, h]

/-- At any depth, the text of a value stands in the text of the containers around it, between texts
that do not depend on it. -/
theorem write_nest (style : Json.Style) (depth : Nat) (frames : List Frame) :
    ∃ before after : List Char, ∀ value,
      (nest value frames).toJson.write style depth =
        before ++ value.toJson.write style (depth + frames.length) ++ after := by
  -- what stands in the outermost frame is written one level deeper
  induction frames generalizing depth with
  | nil => exact ⟨[], [], fun value => by simp [nest]⟩
  | cons frame frames ih =>
      obtain ⟨before, after, h⟩ := write_fill style depth frame
      obtain ⟨inner, outer, hnest⟩ := ih (depth + 1)
      refine ⟨before ++ inner, outer ++ after, fun value => ?_⟩
      rw [nest, h, hnest, List.length_cons, Nat.add_assoc, Nat.add_comm 1]
      simp only [List.append_assoc]

theorem write_number (style : Json.Style) (depth : Nat) (x : Float) :
    (number x).toJson.write style depth = (number x).toJson.compact.toList := by
  rw [Json.compact, String.toList_ofList, toJson, jsonOfNumber]
  split
  · split
    · rw [Json.write, Json.write]
    · rw [Json.write, Json.write]
  · split
    · rw [Json.write, Json.write]
    · rw [Json.write, Json.write]

theorem isContainer_fill (frame : Frame) (value : Value) :
    (frame.fill value).isContainer = true := by
  cases frame <;> rfl

/-- A number has one text inside the containers, whatever they are. -/
theorem text_nest_number (frame : Frame) (frames : List Frame) :
    ∃ before after : String, ∀ x : Float,
      (nest (number x) (frame :: frames)).text =
        before ++ (number x).toJson.compact ++ after := by
  obtain ⟨before, after, h⟩ := write_nest .compact 0 (frame :: frames)
  refine ⟨String.ofList before, String.ofList after, fun x => ?_⟩
  have hcontainer : (nest (number x) (frame :: frames)).isContainer = true :=
    isContainer_fill frame _
  rw [text_of_isContainer hcontainer, Json.compact, h, write_number]
  simp only [String.ofList_append, String.ofList_toList]

end Value

/-! ## The two texts of an integer -/

namespace Number

theorem isDigit_or_sign_of_mem_intText {n : Int} {c : Char} (h : c ∈ intText n) :
    c.isDigit = true ∨ c = '-' := by
  have hdigit {n : Nat} (h : c ∈ digits n) : c.isDigit = true :=
    Nat.isDigit_of_mem_toDigits (by decide) (by decide) h
  cases n with
  | ofNat n => exact .inl (hdigit h)
  | negSucc n =>
      rcases List.mem_cons.1 h with rfl | h
      · exact .inr rfl
      · exact .inl (hdigit h)

/-- Whether a text has a point or a power of ten. -/
def HasFraction (text : List Char) : Prop :=
  '.' ∈ text ∨ 'e' ∈ text

theorem not_hasFraction_intText (n : Int) : ¬HasFraction (intText n) := by
  rintro (h | h)
  · rcases isDigit_or_sign_of_mem_intText h with h | h <;> cases h
  · rcases isDigit_or_sign_of_mem_intText h with h | h <;> cases h

theorem hasFraction_append {before after : List Char} (h : HasFraction after) :
    HasFraction (before ++ after) :=
  h.imp (List.mem_append_right before) (List.mem_append_right before)

/-- A decimal in JSON does not look like an integer. -/
theorem Decimal.hasFraction_jsonText (d : Decimal) : HasFraction d.jsonText := by
  unfold jsonText
  dsimp only
  split
  · split
    · exact hasFraction_append (.inl List.mem_cons_self)
    · next hneg => exact .inl (point_mem_positional (Int.not_le.1 hneg))
  · exact .inr (by simp [scientific])

theorem hasFraction_jsonText {x : Float} (h : x.isFinite = true) : HasFraction (jsonText x) := by
  replace h : (unpack x).isFinite = true := h
  unfold jsonText
  split
  · next hx =>
    rw [hx] at h
    cases h
  · next hx =>
    rw [hx] at h
    cases h
  · exact hasFraction_append (.inl (by decide))
  · exact hasFraction_append (Decimal.hasFraction_jsonText _)

end Number

namespace Value

open Number (HasFraction)

variable {x : Float} {n : Int}

theorem text_of_integer (hx : toInt? x = some n) (hn : n.natAbs < 10 ^ 21) :
    (number x).text = String.ofList (intText n) := by
  have hfinite : (Number.unpack x).isFinite = true := Number.isFinite_of_toInt? hx
  rw [text, textOfNumber]
  split
  · next hu =>
    rw [hu] at hfinite
    cases hfinite
  · next hu =>
    rw [hu] at hfinite
    cases hfinite
  · rw [hx]
    exact congrArg String.ofList (if_pos hn)

theorem compact_of_small_integer (hx : toInt? x = some n) (hn : n.natAbs < 2 ^ 53) :
    (number x).toJson.compact = String.ofList (intText n) := by
  have hjson : (number x).toJson = .number (.integer n) := by
    rw [toJson, jsonOfNumber, hx]
    exact if_pos hn
  rw [hjson, Json.compact, Json.write, Json.numberText]

theorem hasFraction_compact_of_large_integer (hx : toInt? x = some n) (hn : 2 ^ 53 ≤ n.natAbs) :
    HasFraction (number x).toJson.compact.toList := by
  have hjson : (number x).toJson = .number (.double x) := by
    rw [toJson, jsonOfNumber, hx]
    exact if_neg hn.not_gt
  rw [hjson, Json.compact, Json.write, Json.numberText, String.toList_ofList]
  exact Number.hasFraction_jsonText (Number.isFinite_of_toInt? hx)

/-- An integer of no more than twenty-one digits is written as one where it stands alone. Inside
containers, however deep, it has the same text if it is below `2 ^ 53`, and a point or a power of
ten if it is not. -/
theorem text_of_integer_in_containers (frame : Frame) (frames : List Frame) :
    ∃ before after : String, ∀ x : Float,
      (nest (number x) (frame :: frames)).text = before ++ (number x).toJson.compact ++ after ∧
        ∀ n, toInt? x = some n → n.natAbs < 10 ^ 21 →
          (number x).text = String.ofList (intText n) ∧
            ((number x).toJson.compact = (number x).text ↔ n.natAbs < 2 ^ 53) ∧
            (HasFraction (number x).toJson.compact.toList ↔ 2 ^ 53 ≤ n.natAbs) := by
  obtain ⟨before, after, hframes⟩ := text_nest_number frame frames
  refine ⟨before, after, fun x => ⟨hframes x, fun n hx hn => ?_⟩⟩
  have htext := text_of_integer hx hn
  have hinteger : ¬HasFraction (number x).text.toList := by
    rw [htext, String.toList_ofList]
    exact Number.not_hasFraction_intText n
  refine ⟨htext, ?_, ?_⟩
  · constructor
    · intro hsame
      by_contra hlarge
      rw [← hsame] at hinteger
      exact hinteger (hasFraction_compact_of_large_integer hx (not_lt.1 hlarge))
    · intro hsmall
      rw [htext, compact_of_small_integer hx hsmall]
  · constructor
    · intro hfraction
      by_contra hsmall
      rw [compact_of_small_integer hx (not_le.1 hsmall), ← htext] at hfraction
      exact hinteger hfraction
    · exact hasFraction_compact_of_large_integer hx

/-- An integer in an array in an object. -/
theorem text_of_integer_in_array :
    (object [("ids", array [number (Number.ofInt 7)])]).text = "\x7b\"ids\":[7]\x7d" ∧
      (number (Number.ofInt 7)).toJson.compact = (number (Number.ofInt 7)).text := by
  have hseven : toInt? (Number.ofInt 7) = some 7 := by decide +kernel
  obtain ⟨before, after, h⟩ := text_of_integer_in_containers (.field "ids" [] []) [.item [] []]
  obtain ⟨-, hsame, -⟩ := (h _).2 7 hseven (by decide)
  exact ⟨by decide +kernel, hsame.2 (by decide)⟩

/-- An integer of sixteen digits that gains a fraction inside an array. -/
theorem integer_gains_fraction :
    toInt? (Number.ofInt 9007199254740992) = some 9007199254740992 ∧
      (number (Number.ofInt 9007199254740992)).text = "9007199254740992" ∧
      (array [number (Number.ofInt 9007199254740992)]).text = "[9007199254740992.0]" := by
  decide +kernel

end Value

end HttpDoctest
