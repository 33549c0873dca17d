import HttpDoctest.Document
import HttpDoctest.Runner

set_option autoImplicit false

/-! # The command line

Reads the arguments of the command and runs the document they name. Arguments are taken from
left to right. The value of an option is looked at when the argument behind it has been
recognised, so a value that cannot be read is reported before what comes later, but not before
an argument that is unknown.
-/

namespace HttpDoctest.CommandLine

/-- Why arguments are refused. -/
inductive UsageError where
  /-- A variable is not written as a key, an equals sign and a value. -/
  | invalidVariable (raw : String)
  /-- Anything else: an unknown option, a value that is missing or surplus, and the like. -/
  | unusable
deriving DecidableEq, Repr

/-- The text of a usage error, where it has one of its own. -/
def UsageError.message? : UsageError → Option String
  | invalidVariable raw => some ("expected KEY=VALUE, got \x60" ++ raw ++ "\x60")
  | unusable => none

/-- What the arguments ask for. -/
structure Invocation where
  file : Option String := none
  strict : Bool := false
  jsonPolicy : Option JsonPolicy := none
  noColor : Bool := false
  /-- Variables in the order in which they were given. -/
  seeds : List (String × String) := []
  verbose : Bool := false

/-- An option that takes a value. -/
inductive ValueOption where
  | jsonPolicy
  | var
deriving DecidableEq, Repr

/-- An option that takes no value. -/
inductive Flag where
  | strict
  | noColor
  | verbose
deriving DecidableEq, Repr

/-- What has been recognised but not looked at. -/
inductive Pending where
  | nothing
  /-- An option without its value. -/
  | awaiting (option : ValueOption)
  /-- An option with its value. -/
  | given (option : ValueOption) (value : String)
  /-- The name of the document. -/
  | file (path : String)
deriving DecidableEq, Repr

/-- The text in front of the first equals sign, and the text behind it. -/
def splitAtEquals? (text : List Char) : Option (List Char × List Char) :=
  match text.dropWhile (· != '=') with
  | _ :: value => some (text.takeWhile (· != '='), value)
  | [] => none

/-- The key and the value of a variable. The key is trimmed and not empty. -/
def readVariable (raw : String) : Except UsageError (String × String) :=
  match splitAtEquals? raw.toList with
  | some (key, value) =>
      let key := Text.trim key
      if key.isEmpty then .error (.invalidVariable raw)
      else .ok (String.ofList key, String.ofList value)
  | none => .error (.invalidVariable raw)

/-- The policy with the given name. -/
def readPolicy (name : String) : Except UsageError JsonPolicy :=
  if name = "content-type" then .ok .contentType
  else if name = "always" then .ok .always
  else .error .unusable

namespace Invocation

/-- Gives an option its value. The policy can be given once only. -/
def set (invocation : Invocation) (option : ValueOption) (value : String) :
    Except UsageError Invocation :=
  match option with
  | .var => return { invocation with
      seeds := invocation.seeds ++ [← readVariable value] }
  | .jsonPolicy => match invocation.jsonPolicy with
    | none => return { invocation with jsonPolicy := some (← readPolicy value) }
    | some _ => .error .unusable

/-- Raises a flag, which can be done once only. -/
def raise (invocation : Invocation) (flag : Flag) : Except UsageError Invocation :=
  match flag with
  | .strict =>
      if invocation.strict then .error .unusable else .ok { invocation with strict := true }
  | .noColor =>
      if invocation.noColor then .error .unusable else .ok { invocation with noColor := true }
  | .verbose =>
      if invocation.verbose then .error .unusable else .ok { invocation with verbose := true }

/-- Looks at what is pending. -/
def settle (invocation : Invocation) : Pending → Except UsageError Invocation
  | .nothing => .ok invocation
  | .awaiting _ => .error .unusable
  | .given option value => invocation.set option value
  | .file path =>
      if path.isEmpty then .error .unusable else .ok { invocation with file := some path }

/-- Raises the flags of a group of short options. -/
def raiseShort (invocation : Invocation) (pending : Pending) :
    List Char → Except UsageError Invocation
  | [] => invocation.settle pending
  | c :: flags =>
      if c = 'v' then do
        let settled ← invocation.settle pending
        let raised ← settled.raise .verbose
        raised.raiseShort .nothing flags
      else .error .unusable

end Invocation

/-- What a long option is. -/
inductive Long where
  | flag (flag : Flag)
  | value (option : ValueOption)

/-- The long option with the given name. -/
def long? (name : String) : Option Long :=
  if name = "strict" then some (.flag .strict)
  else if name = "no-color" then some (.flag .noColor)
  else if name = "verbose" then some (.flag .verbose)
  else if name = "json-policy" then some (.value .jsonPolicy)
  else if name = "var" then some (.value .var)
  else none

/-- Whether the name of the document is already known. -/
def hasFile (invocation : Invocation) : Pending → Bool
  | .file _ => true
  | _ => invocation.file.isSome

/-- Takes the name of the document. There is only one. -/
def takeFile (invocation : Invocation) (pending : Pending) (path : String) :
    Except UsageError (Invocation × Pending) :=
  if hasFile invocation pending then .error .unusable
  else return (← invocation.settle pending, .file path)

/-- Takes a long option, written as a name and perhaps an equals sign and a value. -/
def takeLong (invocation : Invocation) (pending : Pending) (text : List Char) :
    Except UsageError (Invocation × Pending) :=
  match splitAtEquals? text with
  | none => match long? (String.ofList text) with
    | some (.flag flag) => return (← (← invocation.settle pending).raise flag, .nothing)
    | some (.value option) => return (← invocation.settle pending, .awaiting option)
    | none => .error .unusable
  | some (name, value) => match long? (String.ofList name) with
    | some (.value option) => do
        let settled ← invocation.settle pending
        return (← settled.set option (String.ofList value), .nothing)
    | _ => .error .unusable

/-- Takes an argument that starts like no option. -/
def takePlain (invocation : Invocation) (pending : Pending) (argument : String) :
    Except UsageError (Invocation × Pending) :=
  match pending with
  | .awaiting option => .ok (invocation, .given option argument)
  | _ => takeFile invocation pending argument

/-- Takes the arguments behind `--`, none of which is an option. -/
def takeFiles (invocation : Invocation) (pending : Pending) :
    List String → Except UsageError Invocation
  | [] => invocation.settle pending
  | path :: paths => do
      let (invocation, pending) ← takeFile invocation pending path
      takeFiles invocation pending paths

/-- Takes arguments from left to right. -/
def takeAll (invocation : Invocation) (pending : Pending) :
    List String → Except UsageError Invocation
  | [] => invocation.settle pending
  | argument :: arguments =>
      match argument.toList with
      | ['-', '-'] => takeFiles invocation pending arguments
      | '-' :: '-' :: text => do
          let (invocation, pending) ← takeLong invocation pending text
          takeAll invocation pending arguments
      | '-' :: c :: flags => do
          let invocation ← invocation.raiseShort pending (c :: flags)
          takeAll invocation .nothing arguments
      | _ => do
          let (invocation, pending) ← takePlain invocation pending argument
          takeAll invocation pending arguments

/-- What the arguments ask for, where the document may also be named by the environment. -/
def invocation (arguments : List String) (environment : Option String) :
    Except UsageError (Invocation × String) := do
  let found ← takeAll {} .nothing arguments
  match found.file.or environment with
  | some path => if path.isEmpty then .error .unusable else return (found, path)
  | none => .error .unusable

/-- The settings of a run that is asked for. -/
def Invocation.settings (invocation : Invocation) : Settings where
  missing := if invocation.strict then .strict else .lenient
  jsonPolicy := invocation.jsonPolicy.getD .contentType
  color := !invocation.noColor
  seed := Table.ofList (invocation.seeds.map fun entry => (entry.1, .string entry.2))

/-- What a command leaves behind. -/
structure Outcome where
  exit : Nat
  out : String
  err : String
deriving DecidableEq, Repr

/-- Runs the request blocks of a document with a client that reaches no server. Gives the
summary, or the failure that ended the run or kept the document from being read, and what was
written to the two outputs. -/
def runDocument (settings : Settings) (document : Except String String) :
    Except Failure Summary × String × String :=
  match document with
  | .error reason => (.error (.io reason), "", "")
  | .ok document =>
      let runner := Runner.start settings .offline .unlimited .unlimited
      let (result, runner) := runner.runOn (Document.requestBlocks document)
      (result, String.ofList runner.out.sink.written, String.ofList runner.err.sink.written)

/-- What a run leaves behind: the exit code zero if all requests passed, one if some failed, and
two if the run itself failed. That failure is reported with `mark` in front of it. -/
def outcome (mark : String) (settings : Settings) (document : Except String String) : Outcome :=
  match runDocument settings document with
  | (.ok summary, out, err) => ⟨if summary.isSuccess then 0 else 1, out, err⟩
  | (.error failure, out, err) => ⟨2, out, err ++ mark ++ failure.message ++ "\n"⟩

/-- The name of the command in front of its own messages. -/
def mark : String := "mdhttp: "

end HttpDoctest.CommandLine
