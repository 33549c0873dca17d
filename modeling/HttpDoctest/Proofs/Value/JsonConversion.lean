import HttpDoctest.Proofs.Json.Readings
import HttpDoctest.Proofs.Value.Equality
import HttpDoctest.Runner

set_option autoImplicit false

/-! # Values through JSON

What becomes of a value that is turned to JSON and back. Arrays and objects stay as they are, with
their items and names in order (`outline_ofJson_toJson`). Of what they hold, JSON has no `undefined`
and no number that is not finite, and gives `null` for it; all else comes back strictly equal
(`ofJson_toJson_strictEq`).
-/

namespace HttpDoctest.Value

open Number (toInt? ofInt)

variable {v : Value} {f g : Value → Value}

/-! ## Changing what is no container -/

mutual

/-- The value with everything in it that is no array and no object changed. -/
def mapLeaves (f : Value → Value) : Value → Value
  | array items => array (mapLeavesItems f items)
  | object fields => object (mapLeavesFields f fields)
  | leaf => f leaf

/-- The items, each changed. -/
def mapLeavesItems (f : Value → Value) : List Value → List Value
  | [] => []
  | item :: items => item.mapLeaves f :: mapLeavesItems f items

/-- The fields, each with its value changed. -/
def mapLeavesFields (f : Value → Value) : List (String × Value) → List (String × Value)
  | [] => []
  | (name, value) :: fields => (name, value.mapLeaves f) :: mapLeavesFields f fields

end

theorem mapLeavesItems_eq (items : List Value) :
    mapLeavesItems f items = items.map (mapLeaves f) := by
  induction items with
  | nil => rfl
  | cons item items ih => rw [mapLeavesItems, ih, List.map_cons]

theorem mapLeavesFields_eq (fields : List (String × Value)) :
    mapLeavesFields f fields = fields.map fun field => (field.1, field.2.mapLeaves f) := by
  induction fields with
  | nil => rfl
  | cons field fields ih => rw [mapLeavesFields, ih, List.map_cons]

theorem mapLeaves_array (items : List Value) :
    (array items).mapLeaves f = array (items.map (mapLeaves f)) := by
  rw [mapLeaves, mapLeavesItems_eq]

theorem mapLeaves_object (fields : List (String × Value)) :
    (object fields).mapLeaves f =
      object (fields.map fun field => (field.1, field.2.mapLeaves f)) := by
  rw [mapLeaves, mapLeavesFields_eq]

theorem mapLeaves_of_isContainer (h : v.isContainer = false) : v.mapLeaves f = f v := by
  cases v with
  | array | object => cases h
  | undefined | null | bool | number | string => rfl

/-- Changes that give strictly equal values in each place give strictly equal values altogether. -/
theorem mapLeaves_strictEq
    (h : ∀ leaf, leaf.isContainer = false → (f leaf).strictEq (g leaf) = true)
    (hv : v.WellFormed) : (v.mapLeaves f).strictEq (v.mapLeaves g) = true := by
  induction v using Value.nested_induction with
  | leaf v hleaf =>
      rw [mapLeaves_of_isContainer hleaf, mapLeaves_of_isContainer hleaf]
      exact h v hleaf
  | array items ih =>
      rw [mapLeaves_array, mapLeaves_array, strictEq_iff_alike]
      refine .array (List.forall₂_map_left_iff.2 (List.forall₂_map_right_iff.2 ?_))
      exact List.forall₂_same.2 fun item hitem => ih item hitem (wellFormed_array.1 hv item hitem)
  | object fields ih =>
      obtain ⟨hnodup, hfields⟩ := wellFormed_object.1 hv
      rw [mapLeaves_object, mapLeaves_object, strictEq_iff_alike]
      refine .object (by rw [List.length_map, List.length_map]) ?_
      -- names do not change, so that each field finds the one that it was on the other side
      rintro _ hmem
      obtain ⟨field, hfield, rfl⟩ := List.mem_map.1 hmem
      refine ⟨field.2.mapLeaves g, lookup_of_mem ?_ (List.mem_map.2 ⟨field, hfield, rfl⟩),
        ih field hfield (hfields field hfield)⟩
      rw [List.map_map]
      exact hnodup

/-- The arrays and objects in a value, with nothing but `null` in them. -/
def outline (v : Value) : Value :=
  v.mapLeaves fun _ => null

/-- A change of what is no container leaves all arrays and objects in place. -/
theorem outline_mapLeaves (h : ∀ leaf, leaf.isContainer = false → (f leaf).isContainer = false) :
    (v.mapLeaves f).outline = v.outline := by
  induction v using Value.nested_induction with
  | leaf v hleaf =>
      rw [outline, outline, mapLeaves_of_isContainer hleaf, mapLeaves_of_isContainer hleaf,
        mapLeaves_of_isContainer (h v hleaf)]
  | array items ih =>
      rw [outline, outline, mapLeaves_array, mapLeaves_array, mapLeaves_array, List.map_map]
      exact congrArg array (List.map_congr_left ih)
  | object fields ih =>
      rw [outline, outline, mapLeaves_object, mapLeaves_object, mapLeaves_object, List.map_map]
      exact congrArg object (List.map_congr_left fun field hfield =>
        congrArg (Prod.mk field.1) (ih field hfield))

/-! ## To JSON and back -/

theorem ofJson_toJson_eq_mapLeaves (v : Value) :
    ofJson v.toJson = v.mapLeaves fun leaf => ofJson leaf.toJson := by
  induction v using Value.nested_induction with
  | leaf v hleaf => rw [mapLeaves_of_isContainer hleaf]
  | array items ih =>
      rw [toJson_array, ofJson_array, List.map_map, mapLeaves_array]
      exact congrArg array (List.map_congr_left ih)
  | object fields ih =>
      rw [toJson_object, ofJson_object, List.map_map, mapLeaves_object]
      exact congrArg object (List.map_congr_left fun field hfield =>
        congrArg (Prod.mk field.1) (ih field hfield))

/-- What JSON holds in place of a value that is no container. -/
def inJson : Value → Value
  | undefined => null
  | number x => if x.isFinite then number x else null
  | leaf => leaf

theorem isContainer_ofJson_toJson (h : v.isContainer = false) :
    (ofJson v.toJson).isContainer = false := by
  cases v with
  | array | object => cases h
  | undefined | null | bool | string => rfl
  | number x =>
      rw [toJson, jsonOfNumber]
      split
      · split <;> rfl
      · split <;> rfl

/-- Arrays keep their items and objects their names, in order. -/
theorem outline_ofJson_toJson (v : Value) : (ofJson v.toJson).outline = v.outline := by
  rw [ofJson_toJson_eq_mapLeaves]
  exact outline_mapLeaves fun _ => isContainer_ofJson_toJson

theorem strictEq_number_self {x : Float} (h : x.isFinite = true) :
    (number x).strictEq (number x) = true :=
  beq_self_iff_isNaN.2 (Number.isNaN_of_isFinite h)

/-- A finite number comes back as it was, but for the sign of a zero. -/
theorem ofJson_toJson_number (x : Float) :
    (ofJson (number x).toJson).strictEq (number x).inJson = true := by
  rw [toJson, jsonOfNumber, inJson]
  split
  · next n hn =>
    have hfinite := Number.isFinite_of_toInt? hn
    rw [if_pos hfinite]
    split
    · next hsmall =>
      -- below `2 ^ 53` the integer is the number again, and a negative zero becomes a positive one
      obtain hsame | ⟨hplus, hminus⟩ := Number.ofInt_of_toInt? hn hsmall
      · show (ofInt n == x) = true
        rw [hsame]
        exact strictEq_number_self hfinite
      · show (ofInt n == x) = true
        rw [hplus, hminus]
        decide +kernel
    · exact strictEq_number_self hfinite
  · split
    · next hfinite => exact strictEq_number_self hfinite
    · rfl

theorem ofJson_toJson_leaf (h : v.isContainer = false) :
    (ofJson v.toJson).strictEq v.inJson = true := by
  cases v with
  | array | object => cases h
  | undefined | null => rfl
  | bool b => exact beq_self_eq_true b
  | number x => exact ofJson_toJson_number x
  | string s => exact beq_self_eq_true s

/-- JSON loses nothing but `undefined` and the numbers that are not finite. -/
theorem ofJson_toJson_strictEq (hv : v.WellFormed) :
    (ofJson v.toJson).strictEq (v.mapLeaves inJson) = true := by
  rw [ofJson_toJson_eq_mapLeaves]
  exact mapLeaves_strictEq (fun _ => ofJson_toJson_leaf) hv

/-! ## What was read -/

theorem wellFormed_ofJson {json : Json} (h : json.WellFormed) : (ofJson json).WellFormed := by
  induction h with
  | null | bool | number | string => trivial
  | array _ ih =>
      rw [ofJson_array, wellFormed_array]
      exact List.forall_mem_map.2 ih
  | object hnodup _ ih =>
      rw [ofJson_object, wellFormed_object, List.map_map]
      exact ⟨hnodup, List.forall_mem_map.2 ih⟩

/-- What was read from JSON has nothing in it that JSON does not hold. -/
theorem mapLeaves_inJson_ofJson {json : Json} (h : json.WellFormed) :
    (ofJson json).mapLeaves inJson = ofJson json := by
  induction h with
  | null | bool | string => rfl
  | number hfinite =>
      rw [ofJson, mapLeaves_of_isContainer rfl, inJson]
      exact if_pos hfinite
  | array _ ih =>
      rw [ofJson_array, mapLeaves_array, List.map_map]
      exact congrArg array (List.map_congr_left ih)
  | object _ _ ih =>
      rw [ofJson_object, mapLeaves_object, List.map_map]
      exact congrArg object (List.map_congr_left fun field hfield =>
        congrArg (Prod.mk field.1) (ih field hfield))

theorem Within.mapLeaves_eq {part : Value} (h : Within part v) (hv : v.mapLeaves f = v) :
    part.mapLeaves f = part := by
  induction h with
  | self => exact hv
  | item hitem _ ih =>
      rw [mapLeaves_array] at hv
      exact ih (List.map_inj_left.1 ((array.inj hv).trans (List.map_id _).symm) _ hitem)
  | field hfield _ ih =>
      rw [mapLeaves_object] at hv
      have hsame := List.map_inj_left.1 ((object.inj hv).trans (List.map_id _).symm) _ hfield
      exact ih (congrArg Prod.snd hsame)

theorem ofText_of_decode {policy : JsonPolicy} {response : Response} {json : Json}
    (h : policy.decode response = .ok (some json)) : Json.ofText response.body = .ok json := by
  rw [JsonPolicy.decode] at h
  split at h
  · cases hread : Json.ofText response.body with
    | ok found =>
        rw [hread] at h
        cases h
        rfl
    | error error =>
        rw [hread] at h
        cases h
  · cases h

/-- A container that was read, or stands in what was read, is strictly equal to what is read from
its text, where the reader takes back what the writer writes. -/
theorem ofText_text_strictEq {policy : JsonPolicy} {response : Response} {json : Json}
    {part : Value} (hread : policy.decode response = .ok (some json))
    (hpart : Within part (ofJson json)) (hcontainer : part.isContainer = true)
    (hback : Json.ofText part.toJson.compact = .ok part.toJson) :
    ∃ again, Json.ofText part.text = .ok again ∧ (ofJson again).strictEq part = true := by
  have hjson := Json.wellFormed_of_ofText (ofText_of_decode hread)
  have heq := ofJson_toJson_strictEq (hpart.wellFormed (wellFormed_ofJson hjson))
  rw [hpart.mapLeaves_eq (mapLeaves_inJson_ofJson hjson)] at heq
  rw [text_of_isContainer hcontainer]
  exact ⟨part.toJson, hback, heq⟩

/-- JSON takes nothing from a value but `undefined` and the numbers that are not finite, and keeps
its arrays and objects with their items and names in order. So a container from the body of a
response that is stored, shown, and read again is strictly equal to itself before, where the reader
takes back what the writer writes. -/
theorem json_conversion_faithful :
    (∀ v : Value, v.WellFormed → (ofJson v.toJson).strictEq (v.mapLeaves inJson) = true ∧
      (ofJson v.toJson).outline = v.outline) ∧
    ∀ (policy : JsonPolicy) (response : Response) (json : Json) (part stored : Value)
      (store : Store) (key : String),
      policy.decode response = .ok (some json) → Within part (ofJson json) →
      part.isContainer = true → (store.put key part).get? key = some stored →
      Json.ofText stored.toJson.compact = .ok stored.toJson →
      ∃ again, Json.ofText stored.text = .ok again ∧ (ofJson again).strictEq part = true := by
  refine ⟨fun v hv => ⟨ofJson_toJson_strictEq hv, outline_ofJson_toJson v⟩, ?_⟩
  intro policy response json part stored store key hread hpart hcontainer hstored hback
  rw [Table.get?_put, if_pos rfl] at hstored
  cases hstored
  exact ofText_text_strictEq hread hpart hcontainer hback

/-- An array with what JSON does not hold, and an array with a number in the body of a response. -/
theorem json_conversion_of_arrays :
    ((ofJson (array [undefined, number Number.nan]).toJson).strictEq (array [null, null]) = true) ∧
      ∃ again, Json.ofText "[\"a\",null,7]" = .ok again ∧
        (ofJson again).strictEq (array [string "a", null, number (Number.ofInt 7)]) = true := by
  let json : Json := .array [.string "a", .null, .number (.integer 7)]
  let part := array [string "a", null, number (Number.ofInt 7)]
  have hheld : (array [undefined, number Number.nan]).mapLeaves inJson = array [null, null] := by
    cbv
  have hread : JsonPolicy.always.decode ⟨200, .empty, "\x7b\"ids\": [\"a\", null, 7]\x7d"⟩ =
      .ok (some (.object [("ids", json)])) := by
    cbv
  have hpart : Within part (ofJson (.object [("ids", json)])) :=
    .field List.mem_cons_self .self
  have htext : part.text = "[\"a\",null,7]" := by decide +kernel
  have hjson : part.toJson = json := rfl
  have hback : Json.ofText part.toJson.compact = .ok part.toJson := by
    rw [← text_of_isContainer rfl, htext, hjson]
    cbv
  have hlost := (json_conversion_faithful.1 (array [undefined, number Number.nan])
    ⟨trivial, trivial, trivial⟩).1
  rw [hheld] at hlost
  have hagain := json_conversion_faithful.2 .always _ _ _ _ .empty "ids" hread hpart rfl rfl hback
  rw [htext] at hagain
  exact ⟨hlost, hagain⟩

end HttpDoctest.Value
