import HttpDoctest.Request.Headers
import HttpDoctest.Request.Method
import HttpDoctest.Text.Search

set_option autoImplicit false

/-! # Requests and responses

What goes to a server and what comes back. A request with a body says how many bytes the body
has, unless it says so already.
-/

namespace HttpDoctest

/-- A request without placeholders. -/
structure Request where
  method : Method
  url : String
  headers : Headers
  body : Option String
deriving DecidableEq

/-- What a server answers. -/
structure Response where
  status : Nat
  headers : Headers
  body : String

/-- The name of the header that holds the length of the body. -/
def contentLength : String := "Content-Length"

/-- The request with the length of its body added as the last header, if it has a body and no
header gives the length. -/
def Request.withContentLength (request : Request) : Request :=
  match request.body with
  | none => request
  | some body =>
      if request.headers.declares contentLength then request
      else { request with
        headers := request.headers.put contentLength (toString (Text.byteLength body.toList)) }

end HttpDoctest
