import HttpDoctest.Table
import HttpDoctest.Text.Case

set_option autoImplicit false

/-! # Headers

Header names keep their spelling and their order. Two names that differ in the case of a
letter are different keys; only a search may ignore the case of ASCII letters.
-/

namespace HttpDoctest

/-- Header values under their names. -/
abbrev Headers := Table String

namespace Headers

/-- The value of the first header whose name equals `name` up to the case of ASCII letters. -/
def find? (headers : Headers) (name : String) : Option String :=
  (headers.entries.find? fun entry => Text.eqIgnoringAsciiCase entry.1 name).map Prod.snd

/-- Whether some header is named `name` up to the case of ASCII letters. -/
def declares (headers : Headers) (name : String) : Bool :=
  (headers.find? name).isSome

end Headers

end HttpDoctest
