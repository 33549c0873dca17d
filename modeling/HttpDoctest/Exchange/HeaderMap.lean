import HttpDoctest.Failure
import HttpDoctest.Request.Headers
import HttpDoctest.Text.Case

set_option autoImplicit false

/-! # Header maps

Headers on their way to the wire and back. On the wire names are in lower case, values are
bytes, and one name may have several values, which are kept together. Going out, the first
header that cannot be sent stops the rest; coming in, values that are no plain text are left
out and the others under one name are joined.
-/

namespace HttpDoctest

/-- The values under each name, names in order of arrival, values too. -/
abbrev HeaderMap := Table (List (List UInt8))

namespace HeaderMap

/-- The bytes of a text in UTF-8. -/
def bytesOf (text : String) : List UInt8 :=
  text.toList.flatMap String.utf8EncodeChar

/-- Whether `c` may stand in a name. Capital letters may not. -/
def isNameChar (c : Char) : Bool :=
  c.isLower || c.isDigit || "!\"#$%&\x27*+-.^_\x60|~".toList.contains c

/-- The greatest length of a name. -/
def nameLimit : Nat := Nat.pow 2 16 - 1

/-- Whether a text in lower case is a name. -/
def isName (name : List Char) : Bool :=
  !name.isEmpty && name.length ≤ nameLimit && name.all isNameChar

/-- Whether a byte may be sent in a value: no control character but the tab. -/
def isSendable (b : UInt8) : Bool :=
  b == 9 || (32 ≤ b && b != 127)

/-- Whether a byte may be read back from a value: visible ASCII, a space or a tab. -/
def isReadable (b : UInt8) : Bool :=
  b == 9 || (32 ≤ b && b < 127)

/-- Adds a value under a name. -/
def append (map : HeaderMap) (name : String) (value : List UInt8) : HeaderMap :=
  map.put name ((map.get? name).getD [] ++ [value])

/-- Rules for what may be sent. -/
structure Rules where
  /-- Whether a text in lower case is a name. -/
  isName : List Char → Bool
  /-- Whether bytes are a value. -/
  isValue : List UInt8 → Bool

/-- The rules of HTTP. -/
def Rules.http : Rules := ⟨HeaderMap.isName, (·.all isSendable)⟩

/-- Adds a header, its name in lower case. -/
def Rules.putHeader (rules : Rules) (map : HeaderMap) (name value : String) :
    Except Failure HeaderMap :=
  let lower := Text.toLower name.toList
  if rules.isName lower then
    if rules.isValue (bytesOf value) then .ok (map.append (String.ofList lower) (bytesOf value))
    else .error .invalidHeaderValue
  else .error .invalidHeaderName

/-- Adds headers in order up to the first that cannot be sent. Gives the map with the headers
in front of that one, and the failure, if there is one. -/
def Rules.putHeaders (rules : Rules) (map : HeaderMap) :
    List (String × String) → HeaderMap × Except Failure Unit
  | [] => (map, .ok ())
  | (name, value) :: entries =>
      match rules.putHeader map name value with
      | .ok map => rules.putHeaders map entries
      | .error failure => (map, .error failure)

/-- Adds headers by the rules of HTTP. -/
def putHeaders (map : HeaderMap) (entries : List (String × String)) :
    HeaderMap × Except Failure Unit :=
  Rules.http.putHeaders map entries

/-- The text of a value that is plain text. -/
def readable? (value : List UInt8) : Option String :=
  if value.all isReadable then some (String.ofList (value.map fun b => Char.ofNat b.toNat))
  else none

/-- The readable values under a name, joined by commas. There is nothing if none is readable. -/
def joined? (values : List (List UInt8)) : Option String :=
  match values.filterMap readable? with
  | [] => none
  | texts => some (", ".intercalate texts)

/-- The headers that a map stands for. -/
def headers (map : HeaderMap) : Headers :=
  Table.ofList (map.entries.filterMap fun entry =>
    (joined? entry.2).map fun value => (entry.1, value))

end HeaderMap

end HttpDoctest
