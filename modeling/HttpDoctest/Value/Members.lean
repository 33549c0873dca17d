import HttpDoctest.Expression.Error
import HttpDoctest.Text.Case
import HttpDoctest.Text.Search
import HttpDoctest.Value.Text

set_option autoImplicit false

/-! # Members of values

The properties that a value has and the methods that can be called on it. Texts and arrays have
a length and are indexed from zero; a text counts and is searched by characters. Reading any
member of `undefined` or `null` is an error, reading one that is not there gives `undefined`.
-/

namespace HttpDoctest.Value

/-- The position that a key stands for, given as a number or as a text. -/
def index? : Value → Option Nat
  | number x => Number.index? x
  | string s => Number.indexOfText? s.toList
  | _ => none

/-- Whether a key asks for the length. -/
def isLength : Value → Bool
  | string s => s == "length"
  | _ => false

/-- The number of things counted. -/
def count (n : Nat) : Value :=
  number (Number.ofInt n)

/-- A position, or minus one for none. -/
def position (found : Option Nat) : Value :=
  match found with
  | some n => count n
  | none => number (Number.ofInt (-1))

/-- The property of a value under a key. -/
def property (base key : Value) : Except ExprError Value :=
  match base with
  | undefined => .error (.propertyOfNothing key.text "undefined")
  | null => .error (.propertyOfNothing key.text "null")
  | string s =>
      if key.isLength then .ok (count s.toList.length)
      else .ok (((key.index?.bind fun i => s.toList[i]?).map fun c =>
        string (String.singleton c)).getD undefined)
  | array items =>
      if key.isLength then .ok (count items.length)
      else .ok ((key.index?.bind fun i => items[i]?).getD undefined)
  | object fields => .ok ((fields.lookup key.text).getD undefined)
  | bool _ => .ok undefined
  | number _ => .ok undefined

/-- The methods of texts. -/
def textMethod? (text : List Char) (method : String) (argument : Value) : Option Value :=
  let other := argument.text.toList
  if method = "includes" then some (bool (Text.occursIn other text))
  else if method = "startsWith" then some (bool (other.isPrefixOf text))
  else if method = "endsWith" then some (bool (other.isSuffixOf text))
  else if method = "indexOf" then some (position (Text.indexOf? other text))
  else if method = "toLowerCase" then some (string (String.ofList (Text.toLower text)))
  else if method = "toUpperCase" then some (string (String.ofList (Text.toUpper text)))
  else if method = "trim" then some (string (String.ofList (Text.trim text)))
  else none

/-- An item of an array inside the joined text: `undefined` and `null` leave no trace. -/
def joined (item : Value) : String :=
  if item.isNullish then "" else item.text

/-- The text that stands between joined items. -/
def separator : Value → String
  | undefined => ","
  | other => other.text

/-- The methods of arrays. -/
def arrayMethod? (items : List Value) (method : String) (argument : Value) : Option Value :=
  if method = "includes" then some (bool (items.any fun item => item.strictEq argument))
  else if method = "indexOf" then
    some (position (items.findIdx? fun item => item.strictEq argument))
  else if method = "join" then
    some (string (argument.separator.intercalate (items.map joined)))
  else none

/-- The methods of a value that is neither `undefined` nor `null`. -/
def method? (base : Value) (method : String) (argument : Value) : Option Value :=
  if method = "toString" then some (string base.text)
  else match base with
    | string s => textMethod? s.toList method argument
    | array items => arrayMethod? items method argument
    | _ => none

/-- Calls a method of a value. A method takes its first argument and ignores the others; an
argument that is not given is `undefined`. -/
def invoke (base : Value) (method : String) (arguments : List Value) :
    Except ExprError Value :=
  match base with
  | undefined => .error (.propertyOfNothing method "undefined")
  | null => .error (.propertyOfNothing method "null")
  | _ => match base.method? method (arguments.head?.getD undefined) with
    | some result => .ok result
    | none => .error (.notAFunction method)

end HttpDoctest.Value
