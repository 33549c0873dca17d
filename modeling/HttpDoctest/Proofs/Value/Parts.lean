import HttpDoctest.Proofs.Table
import HttpDoctest.Value.Text

set_option autoImplicit false

/-! # Parts of values

Arrays and objects hold values that may be arrays and objects again. What is shown of all values by
induction is shown of leaves, and of arrays and objects from what they hold (`nested_induction`).
`Within` tells what stands in a value at any depth.
-/

namespace HttpDoctest.Value

/-- Whether the value is an array or an object. -/
def isContainer : Value → Bool
  | array _ => true
  | object _ => true
  | _ => false

/-- Induction over all depths of a value. -/
@[elab_as_elim]
theorem nested_induction {P : Value → Prop}
    (leaf : ∀ value, value.isContainer = false → P value)
    (array : ∀ items, (∀ item ∈ items, P item) → P (.array items))
    (object : ∀ fields, (∀ field ∈ fields, P field.2) → P (.object fields)) (value : Value) :
    P value :=
  @Value.rec P (fun items => ∀ item ∈ items, P item) (fun fields => ∀ field ∈ fields, P field.2)
    (fun field => P field.2) (leaf _ rfl) (leaf _ rfl) (fun _ => leaf _ rfl) (fun _ => leaf _ rfl)
    (fun _ => leaf _ rfl) array object (List.forall_mem_nil _)
    (fun _ _ hitem hitems => List.forall_mem_cons.2 ⟨hitem, hitems⟩) (List.forall_mem_nil _)
    (fun _ _ hfield hfields => List.forall_mem_cons.2 ⟨hfield, hfields⟩) (fun _ _ h => h) value

/-! ## Well-formed values -/

theorem wellFormedItems_iff {items : List Value} :
    WellFormedItems items ↔ ∀ item ∈ items, item.WellFormed := by
  induction items with
  | nil => exact iff_of_true trivial (List.forall_mem_nil _)
  | cons item items ih => rw [WellFormedItems, ih, List.forall_mem_cons]

theorem wellFormedFields_iff {fields : List (String × Value)} :
    WellFormedFields fields ↔ ∀ field ∈ fields, field.2.WellFormed := by
  induction fields with
  | nil => exact iff_of_true trivial (List.forall_mem_nil _)
  | cons field fields ih => rw [WellFormedFields, ih, List.forall_mem_cons]

theorem wellFormed_array {items : List Value} :
    (array items).WellFormed ↔ ∀ item ∈ items, item.WellFormed := by
  rw [WellFormed, wellFormedItems_iff]

theorem wellFormed_object {fields : List (String × Value)} :
    (object fields).WellFormed ↔
      (fields.map Prod.fst).Nodup ∧ ∀ field ∈ fields, field.2.WellFormed := by
  rw [WellFormed, wellFormedFields_iff]

/-! ## JSON of containers -/

theorem toJson_array (items : List Value) : (array items).toJson = .array (items.map toJson) := by
  have hitems : toJsonItems items = items.map toJson := by
    induction items with
    | nil => rfl
    | cons item items ih => rw [toJsonItems, ih, List.map_cons]
  rw [toJson, hitems]

theorem toJson_object (fields : List (String × Value)) :
    (object fields).toJson = .object (fields.map fun field => (field.1, field.2.toJson)) := by
  have hfields : toJsonFields fields = fields.map fun field => (field.1, field.2.toJson) := by
    induction fields with
    | nil => rfl
    | cons field fields ih => rw [toJsonFields, ih, List.map_cons]
  rw [toJson, hfields]

theorem ofJson_array (items : List Json) : ofJson (.array items) = array (items.map ofJson) := by
  have hitems : ofJsonItems items = items.map ofJson := by
    induction items with
    | nil => rfl
    | cons item items ih => rw [ofJsonItems, ih, List.map_cons]
  rw [ofJson, hitems]

theorem ofJson_object (fields : List (String × Json)) :
    ofJson (.object fields) = object (fields.map fun field => (field.1, ofJson field.2)) := by
  have hfields : ofJsonFields fields = fields.map fun field => (field.1, ofJson field.2) := by
    induction fields with
    | nil => rfl
    | cons field fields ih => rw [ofJsonFields, ih, List.map_cons]
  rw [ofJson, hfields]

theorem text_of_isContainer {value : Value} (h : value.isContainer = true) :
    value.text = value.toJson.compact := by
  cases value with
  | array | object => rw [text]
  | undefined | null | bool | number | string => cases h

/-! ## Parts -/

/-- Whether `part` is a value or stands in it at any depth. -/
inductive Within (part : Value) : Value → Prop
  | self : Within part part
  | item {item : Value} {items : List Value} :
      item ∈ items → Within part item → Within part (.array items)
  | field {field : String × Value} {fields : List (String × Value)} :
      field ∈ fields → Within part field.2 → Within part (.object fields)

variable {part value : Value}

theorem Within.eq_of_isContainer (h : Within part value) (hvalue : value.isContainer = false) :
    part = value := by
  cases h with
  | self => rfl
  | item => cases hvalue
  | field => cases hvalue

theorem Within.wellFormed (h : Within part value) (hvalue : value.WellFormed) :
    part.WellFormed := by
  induction h with
  | self => exact hvalue
  | item hitem _ ih => exact ih (wellFormed_array.1 hvalue _ hitem)
  | field hfield _ ih => exact ih ((wellFormed_object.1 hvalue).2 _ hfield)

end HttpDoctest.Value
