import HttpDoctest.Exchange.Basic
import HttpDoctest.Exchange.HeaderMap
import HttpDoctest.Exchange.Uri

set_option autoImplicit false

/-! # Clients

A client answers requests one after the other, each with a response or a failure, and keeps a
record of what it was asked. The answer may depend on how many requests came before.
-/

namespace HttpDoctest

/-- A client: its answer to the request with a given number, counted from zero, and the
requests it received, the latest first. -/
structure Client where
  answer : Nat → Request → Except Failure Response
  log : List Request

namespace Client

/-- The requests that the client received, in order. -/
def received (client : Client) : List Request :=
  client.log.reverse

/-- Hands a request to the client. -/
def exchange (client : Client) (request : Request) : Except Failure Response × Client :=
  (client.answer client.log.length request, { client with log := request :: client.log })

/-- A client that gives the listed answers in order, and after them always `last`. -/
def scripted (answers : List (Except Failure Response)) (last : Response) : Client :=
  ⟨fun number _ => (answers[number]?).getD (.ok last), []⟩

/-- What keeps a request from being sent at all: a URL that is no URI, then a header that
cannot be sent, then a URL without a server to send to. -/
def objection? (request : Request) : Option Failure :=
  match Uri.form? request.url.toList with
  | none => some (.invalidUri request.url)
  | some form =>
      match (HeaderMap.putHeaders Table.empty request.headers.entries).2 with
      | .error failure => some failure
      | .ok () =>
          if form = .absolute then none
          else some (.connection "client requires absolute-form URIs")

/-- A client without a network. It checks requests like any other, and reaches no server. -/
def offline : Client :=
  ⟨fun _ request => .error ((objection? request).getD (.connection "error trying to connect")), []⟩

end Client

end HttpDoctest
