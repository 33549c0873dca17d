set_option autoImplicit false

/-! # JSON values

The tree of a JSON text. Fields keep the order in which their names first came; no two fields
of one object have the same name. Integers are kept apart from other numbers, which are
doubles.
-/

namespace HttpDoctest

/-- A number as JSON holds it. -/
inductive JsonNumber where
  /-- A number written without point and power of ten, within the range of 64-bit words. -/
  | integer (n : Int)
  /-- Any other number, rounded to a double. -/
  | double (x : Float)

/-- A JSON value. -/
inductive Json where
  | null
  | bool (b : Bool)
  | number (n : JsonNumber)
  | string (s : String)
  | array (items : List Json)
  | object (fields : List (String × Json))

end HttpDoctest
