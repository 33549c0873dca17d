import HttpDoctest.Number.Layout
import HttpDoctest.Number.Reader
import HttpDoctest.Table
import HttpDoctest.Text.Blank

set_option autoImplicit false

/-! # Values

What an expression evaluates to and what the store holds: the values of JSON, and `undefined`
for what is not there. A value counts as true or false, has the name of a type, and can be
read as a number. Strict equality compares values of one kind by content, where the order of
the fields of an object does not matter; loose equality also compares numbers with the texts
and truth values that read as numbers.
-/

namespace HttpDoctest

/-- A value of the expression language. -/
inductive Value where
  | undefined
  | null
  | bool (b : Bool)
  | number (x : Float)
  | string (s : String)
  | array (items : List Value)
  | object (fields : List (String × Value))

instance : Inhabited Value := ⟨.undefined⟩

/-- Values under their keys, shared by all requests of a run. That the keys have an order is no
promise of a store, and seen only of a store that is written out as a whole. -/
abbrev Store := Table Value

namespace Value

mutual

/-- Whether no object inside the value has two fields of one name. -/
def WellFormed : Value → Prop
  | array items => WellFormedItems items
  | object fields => (fields.map Prod.fst).Nodup ∧ WellFormedFields fields
  | _ => True

/-- Whether all items are well-formed. -/
def WellFormedItems : List Value → Prop
  | [] => True
  | item :: items => item.WellFormed ∧ WellFormedItems items

/-- Whether all fields have well-formed values. -/
def WellFormedFields : List (String × Value) → Prop
  | [] => True
  | (_, value) :: fields => value.WellFormed ∧ WellFormedFields fields

end

/-! ## Truth, type and number -/

/-- Whether the value counts as true. -/
def isTruthy : Value → Bool
  | undefined => false
  | null => false
  | bool b => b
  | number x => !(x == 0) && !x.isNaN
  | string s => s != ""
  | array _ => true
  | object _ => true

/-- Whether the value is `undefined` or `null`. -/
def isNullish : Value → Bool
  | undefined => true
  | null => true
  | _ => false

/-- The name of the value's type. -/
def typeName : Value → String
  | undefined => "undefined"
  | bool _ => "boolean"
  | number _ => "number"
  | string _ => "string"
  | null => "object"
  | array _ => "object"
  | object _ => "object"

/-- The number that a text stands for: zero if it is blank, not a number if it is no number. -/
def numberOfText (text : List Char) : Float :=
  let text := Text.trim text
  if text.isEmpty then Number.zero .positive else (Number.ofText? text).getD Number.nan

/-- The value as a number. -/
def toNumber : Value → Float
  | undefined => Number.nan
  | null => Number.zero .positive
  | bool b => if b then Number.ofInt 1 else Number.zero .positive
  | number x => x
  | string s => numberOfText s.toList
  | array _ => Number.nan
  | object _ => Number.nan

/-! ## Equality -/

mutual

/-- Strict equality: values of one kind with the same content. -/
def strictEq : Value → Value → Bool
  | undefined, undefined => true
  | null, null => true
  | bool a, bool b => a == b
  | number x, number y => x == y
  | string s, string t => s == t
  | array xs, array ys => strictEqItems xs ys
  | object fs, object gs => fs.length == gs.length && strictEqFields fs gs
  | _, _ => false

/-- Whether two lists have strictly equal items at all places. -/
def strictEqItems : List Value → List Value → Bool
  | [], [] => true
  | x :: xs, y :: ys => strictEq x y && strictEqItems xs ys
  | _, _ => false

/-- Whether every field has a strictly equal one among `others`. -/
def strictEqFields : List (String × Value) → List (String × Value) → Bool
  | [], _ => true
  | (name, value) :: fields, others =>
      (match others.lookup name with
        | some other => strictEq value other
        | none => false) && strictEqFields fields others

end

/-- Loose equality. The two empty values equal each other and nothing else; a truth value, or
a number beside a text, is compared as a number. -/
def looseEq (a b : Value) : Bool :=
  if a.isNullish || b.isNullish then a.isNullish && b.isNullish
  else match a, b with
    | number _, string _ => a.toNumber == b.toNumber
    | string _, number _ => a.toNumber == b.toNumber
    | bool _, _ => a.toNumber == b.toNumber
    | _, bool _ => a.toNumber == b.toNumber
    | _, _ => strictEq a b

end Value

end HttpDoctest
