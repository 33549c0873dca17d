import HttpDoctest.Console.Basic
import HttpDoctest.Exchange.Client
import HttpDoctest.Expression.Trailer
import HttpDoctest.Failure
import HttpDoctest.Json.Printer
import HttpDoctest.Template

set_option autoImplicit false

/-! # Runs

A run takes request blocks one after the other. The values that one block stores are there for
the placeholders of the next. A block that fails is reported and counted, and the run goes on;
only a console that refuses a report or the summary ends it.

The steps of a block are: read it, compile its trailers, fill its placeholders, show the
request, send it, show the response, and carry out the trailers in order. The first step that
fails ends the block.
-/

namespace HttpDoctest

/-- When the body of a response is read as JSON. -/
inductive JsonPolicy where
  /-- If the content type mentions JSON. -/
  | contentType
  /-- Always. -/
  | always
deriving DecidableEq, Repr

/-- How a run is set up. -/
structure Settings where
  missing : MissingValue := .lenient
  jsonPolicy : JsonPolicy := .contentType
  color : Bool := true
  /-- What the store holds before the first request. -/
  seed : Store := Table.empty

/-- How many requests there were, and how many of them passed. -/
structure Summary where
  successes : Nat
  total : Nat
deriving DecidableEq, Repr

namespace Summary

/-- The summary of no request. -/
def empty : Summary := ⟨0, 0⟩

/-- The summary with one more request. -/
def record (summary : Summary) (passed : Bool) : Summary :=
  ⟨if passed then summary.successes + 1 else summary.successes, summary.total + 1⟩

/-- Whether every request passed. -/
def isSuccess (summary : Summary) : Bool :=
  summary.successes == summary.total

/-- The text of a summary. -/
def text (summary : Summary) : String :=
  toString summary.successes ++ " of " ++ toString summary.total ++ " tests passed"

end Summary

/-- All that a run changes, and the settings that it only reads. -/
structure Runner where
  missing : MissingValue
  jsonPolicy : JsonPolicy
  client : Client
  store : Store
  out : Console
  err : Console

/-- An action of a run. An action that fails leaves the runner as it was at the failure. -/
abbrev Run (α : Type) := ExceptT Failure (StateM Runner) α

/-- A trailer that was compiled. -/
inductive Step where
  | check (assertion : Assertion)
  | perform (effect : SideEffect)

/-- Compiles a trailer. -/
def Trailer.compile : Trailer → Except ExprError Step
  | .assertion source => return .check (← Assertion.compile source)
  | .sideEffect source => return .perform (← SideEffect.compile source)

/-- The request that a block stands for while the store is as it is. -/
def RequestBlock.resolve (block : RequestBlock) (mode : MissingValue) (store : Store) :
    Except UndefinedPlaceholder Request := do
  let url ← Template.interpolate mode store block.url
  let headers ← Template.interpolateHeaders mode store block.headers
  let body ← Template.interpolate? mode store block.body
  return ⟨block.method, url, headers, body⟩

/-- Whether the body of a response is to be read as JSON. -/
def JsonPolicy.covers (policy : JsonPolicy) (response : Response) : Bool :=
  match policy with
  | .always => true
  | .contentType => match response.headers.find? "content-type" with
    | some type => Text.occursIn "json".toList (Text.toAsciiLower type.toList)
    | none => false

/-- The JSON value of the body of a response, if it is to be read and is not blank. -/
def JsonPolicy.decode (policy : JsonPolicy) (response : Response) :
    Except Json.ReadError (Option Json) :=
  if policy.covers response && !(Text.trim response.body.toList).isEmpty then
    (Json.ofText response.body).map some
  else .ok none

namespace Runner

/-- A runner before its first block. -/
def start (settings : Settings) (client : Client) (out err : Sink) : Runner where
  missing := settings.missing
  jsonPolicy := settings.jsonPolicy
  client := client
  store := settings.seed
  out := .ofSink out settings.color
  err := .ofSink err settings.color

/-- Fails the run with what an error of another kind stands for. -/
def demand {ε α : Type} (failure : ε → Failure) : Except ε α → Run α
  | .ok value => return value
  | .error error => throw (failure error)

/-- Prints to the standard output. -/
def onOut (action : Printing Unit) : Run Unit := do
  let runner ← get
  let (result, console) := action.run.run runner.out
  set { runner with out := console }
  demand (fun .closed => .consoleClosed) result

/-- Prints to the error output. -/
def onErr (action : Printing Unit) : Run Unit := do
  let runner ← get
  let (result, console) := action.run.run runner.err
  set { runner with err := console }
  demand (fun .closed => .consoleClosed) result

/-! ## One block -/

/-- Shows a header line with `mark` in front of it. -/
def showHeader (mark : String) (entry : String × String) : Run Unit :=
  onOut (Console.log (mark ++ entry.1 ++ ": " ++ entry.2).toList)

/-- Shows a text in colour with `mark` in front of every line. -/
def showBody (mark text : String) : Run Unit := do
  onOut (Console.format Ansi.cyan)
  onOut (Console.log (Text.markLines mark.toList text.toList))
  onOut (Console.format Ansi.reset)

/-- Shows a request. -/
def showRequest (request : Request) : Run Unit := do
  onOut (Console.log ("> " ++ request.method.name ++ " " ++ request.url).toList)
  request.headers.entries.forM (showHeader "> ")
  match request.body with
  | some body => showBody "> " body
  | none => return ()

/-- Sends a request, with the length of its body added. -/
def send (request : Request) : Run Response := do
  let runner ← get
  let (answer, client) := runner.client.exchange request.withContentLength
  set { runner with client := client }
  demand id answer

/-- Reports whether an assertion holds. -/
def reportAssertion (source : String) (passed : Bool) : Run Unit := do
  let console := (← get).out
  let color := if passed then Ansi.green else Ansi.red
  let verdict := if passed then "passed" else "failed"
  onOut (Console.log (console.code color ++
    ("test: [ " ++ Text.trimmed source ++ " ] has " ++ verdict).toList ++
    console.code Ansi.reset))

/-- Carries out steps in order. Gives whether all assertions hold, where `passed` tells whether
those in front of them did. -/
def carryOut (context : Context) (passed : Bool) : List Step → Run Bool
  | [] => return passed
  | .check assertion :: steps => do
      let holds ← demand .expression (assertion.holds ⟨context, (← get).store⟩)
      reportAssertion assertion.source holds
      carryOut context (passed && holds) steps
  | .perform effect :: steps => do
      let (store, result) := effect.execute context (← get).store
      modify fun runner => { runner with store := store }
      demand .expression result
      carryOut context passed steps

/-- Runs a block, and gives whether it passed. -/
def runBlock (text : String) : Run Bool := do
  let block ← demand .block (RequestBlock.ofString text)
  let steps ← demand .expression (block.trailers.mapM Trailer.compile)
  let runner ← get
  let request ← demand (fun missing => .undefinedPlaceholder missing.key)
    (block.resolve runner.missing runner.store)
  showRequest request
  let response ← send request
  response.headers.entries.forM (showHeader "< ")
  let json? ← demand .json (runner.jsonPolicy.decode response)
  match json? with
  | some json => showBody "< " json.pretty
  | none => pure ()
  let json := (json?.map Value.ofJson).getD .undefined
  carryOut ⟨response.status, json, response.body, response.headers⟩ true steps

/-! ## All blocks -/

/-- Reports that the block with the given number was aborted. -/
def reportFailure (number : Nat) (failure : Failure) : Run Unit := do
  onOut Console.reset
  onErr (Console.format Ansi.red)
  onErr (Console.log
    ("[ERROR] request #" ++ toString number ++ " aborted: " ++ failure.message).toList)
  onErr (Console.format Ansi.reset)
  onErr Console.reset

/-- Runs the block that follows those summed up so far, reports it if it is aborted, and sums it
up. -/
def runNext (summary : Summary) (text : String) : Run Summary := do
  match ← ExceptT.lift (runBlock text).run with
  | .ok passed =>
      onOut (Console.insertLineFeeds 2)
      return summary.record passed
  | .error failure =>
      reportFailure (summary.total + 1) failure
      onOut (Console.insertLineFeeds 2)
      return summary.record false

/-- Prints a summary. -/
def printSummary (summary : Summary) : Run Unit := do
  onOut (Console.format (if summary.isSuccess then Ansi.green else Ansi.red))
  onOut (Console.log summary.text.toList)
  onOut (Console.format Ansi.reset)
  onOut Console.flush

/-- Runs blocks in order and prints the summary. -/
def run (blocks : List String) : Run Summary := do
  let summary ← blocks.foldlM runNext .empty
  printSummary summary
  return summary

/-- Runs blocks on a runner. -/
def runOn (runner : Runner) (blocks : List String) : Except Failure Summary × Runner :=
  (run blocks).run.run runner

end Runner

end HttpDoctest
