import HttpDoctest.Json.Printer
import HttpDoctest.Value.Basic

set_option autoImplicit false

/-! # The text of a value

Texts replace placeholders and are joined by `+`. Arrays and objects are written as JSON
without blanks. A number that is an integer is written in digits alone up to twenty-one of
them; inside JSON only the integers below `2 ^ 53` are.
-/

namespace HttpDoctest.Value

/-- A number as JSON holds it; what is no finite number is `null`. -/
def jsonOfNumber (x : Float) : Json :=
  match Number.toInt? x with
  | some n => if n.natAbs < Nat.pow 2 53 then .number (.integer n) else .number (.double x)
  | none => if x.isFinite then .number (.double x) else .null

mutual

/-- The value as JSON, where `undefined` is `null`. -/
def toJson : Value → Json
  | undefined => .null
  | null => .null
  | bool b => .bool b
  | number x => jsonOfNumber x
  | string s => .string s
  | array items => .array (toJsonItems items)
  | object fields => .object (toJsonFields fields)

/-- The items as JSON. -/
def toJsonItems : List Value → List Json
  | [] => []
  | item :: items => item.toJson :: toJsonItems items

/-- The fields as JSON. -/
def toJsonFields : List (String × Value) → List (String × Json)
  | [] => []
  | (name, value) :: fields => (name, value.toJson) :: toJsonFields fields

end

/-- The double that a JSON number stands for. -/
def numberOfJson : JsonNumber → Float
  | .integer n => Number.ofInt n
  | .double x => x

mutual

/-- The value that a JSON text stands for. -/
def ofJson : Json → Value
  | .null => .null
  | .bool b => .bool b
  | .number n => .number (numberOfJson n)
  | .string s => .string s
  | .array items => .array (ofJsonItems items)
  | .object fields => .object (ofJsonFields fields)

/-- The values of the items. -/
def ofJsonItems : List Json → List Value
  | [] => []
  | item :: items => ofJson item :: ofJsonItems items

/-- The values of the fields. -/
def ofJsonFields : List (String × Json) → List (String × Value)
  | [] => []
  | (name, json) :: fields => (name, ofJson json) :: ofJsonFields fields

end

/-- The text of a number. -/
def textOfNumber (x : Float) : List Char :=
  match Number.unpack x with
  | .notANumber => "NaN".toList
  | .infinity sign => Number.signText sign ++ "Infinity".toList
  | _ => match Number.toInt? x with
    | some n => if n.natAbs < Nat.pow 10 21 then Number.intText n else Number.plain x
    | none => Number.plain x

/-- The text of a value. -/
def text : Value → String
  | undefined => "undefined"
  | null => "null"
  | bool true => "true"
  | bool false => "false"
  | number x => String.ofList (textOfNumber x)
  | string s => s
  | array items => (toJson (array items)).compact
  | object fields => (toJson (object fields)).compact

end HttpDoctest.Value
