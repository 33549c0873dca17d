import HttpDoctest.CommandLine

set_option autoImplicit false

/-! # The command

Reads the arguments, the environment and the document, and prints what the run gives.
-/

open HttpDoctest

/-- The reason for which a file cannot be read, in the words of the system. -/
def fileReason : IO.Error → String
  | .noFileOrDirectory .. => "No such file or directory (os error 2)"
  | .permissionDenied .. => "Permission denied (os error 13)"
  | .inappropriateType .. => "Is a directory (os error 21)"
  | error => toString error

/-- The text of a file, or the reason for which it cannot be read. -/
def readDocument (path : String) : IO (Except String String) := do
  try return .ok (← IO.FS.readFile path)
  catch error => return .error (fileReason error)

/-- Runs the command and gives its exit code. -/
def main (arguments : List String) : IO UInt32 := do
  match CommandLine.invocation arguments (← IO.getEnv "MDHTTP_FILE") with
  | .error error =>
      IO.eprintln ("error: " ++ (error.message?.getD "these arguments cannot be used"))
      return 2
  | .ok (invocation, path) =>
      let result := CommandLine.outcome CommandLine.mark invocation.settings
        (← readDocument path)
      IO.print result.out
      IO.eprint result.err
      return result.exit.toUInt32
