import HttpDoctest.Expression.Error
import HttpDoctest.Json.Reader
import HttpDoctest.Request.Block

set_option autoImplicit false

/-! # Failures

All that can abort a request block or a run, and what a report says about it.
-/

namespace HttpDoctest

/-- Why a request block or a run was aborted. -/
inductive Failure where
  /-- A console refused a chunk. -/
  | consoleClosed
  /-- Reading or writing failed for another reason. -/
  | io (reason : String)
  /-- A block is no request. -/
  | block (error : BlockError)
  /-- A trailer cannot be compiled or carried out. -/
  | expression (error : ExprError)
  /-- A placeholder has no value. -/
  | undefinedPlaceholder (key : String)
  /-- A header has a name that cannot be sent. -/
  | invalidHeaderName
  /-- A header has a value that cannot be sent. -/
  | invalidHeaderValue
  /-- A URL cannot be read. -/
  | invalidUri (url : String)
  /-- The server could not be reached. -/
  | connection (reason : String)
  /-- The message breaks the rules of HTTP. -/
  | http (reason : String)
  /-- The body of a response is not JSON. -/
  | json (error : Json.ReadError)
deriving DecidableEq, Repr

/-- The text of a failure. -/
def Failure.message : Failure → String
  | consoleClosed => "IoError: console closed"
  | io reason => "IoError: " ++ reason
  | block error => "Parse error: " ++ error.message
  | expression error => "Evaluation error: " ++ error.message
  | undefinedPlaceholder key =>
      "No value has been stored for placeholder \x7b\x7b " ++ key ++ " \x7d\x7d"
  | invalidHeaderName => "Invalid header name"
  | invalidHeaderValue => "Invalid header value"
  | invalidUri url => "Invalid URI: " ++ url
  | connection reason => "Hyper error: " ++ reason
  | http reason => "Http Error: " ++ reason
  | json error => "Response body is not valid JSON: " ++ error.message

end HttpDoctest
