set_option autoImplicit false

/-! # Request methods

The methods a request line may name. Their names are written in capital letters and compared
exactly.
-/

namespace HttpDoctest

/-- A method that a request may have. -/
inductive Method where
  | get
  | post
  | put
  | patch
  | delete
  | head
  | options
deriving DecidableEq, Repr

namespace Method

/-- The name of a method as it stands in a request line. -/
def name : Method → String
  | get => "GET"
  | post => "POST"
  | put => "PUT"
  | patch => "PATCH"
  | delete => "DELETE"
  | head => "HEAD"
  | options => "OPTIONS"

/-- All methods. -/
def all : List Method := [get, post, put, patch, delete, head, options]

/-- The method with the given name. -/
def ofName? (text : String) : Option Method :=
  all.find? fun method => method.name == text

theorem ofName?_name (method : Method) : ofName? method.name = some method := by
  cases method <;> decide

end Method

end HttpDoctest
