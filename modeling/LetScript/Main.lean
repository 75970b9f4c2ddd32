import LetScript.Cli.Session

/-!
# The program

Reads the files that a command line names, carries the command line out, writes what it has to
say and exits with its status.
-/

namespace LetScript.Cli

/-- A reason in the words of the system, which begins them with a capital letter. -/
def FileError.said (opened : Bool) (reason : String) : FileError :=
  .system opened (Text.ofString reason.decapitalize)

/-- The reason why the system could not read a file.  An error names the path when the file could
not be opened, and no path when it was opened but could not be read. -/
def FileError.ofSystem : IO.Error → FileError
  | .noFileOrDirectory .. => .missing
  | .inappropriateType (some _) 20 _ => .notFolder
  | .inappropriateType none 21 _ => .folder
  | .invalidArgument _ 22 _ => .invalid
  | .invalidArgument _ 36 _ => .tooLong
  | .interrupted _ _ reason => .said false reason
  | .inappropriateType file _ reason | .invalidArgument file _ reason
  | .permissionDenied file _ reason | .resourceExhausted file _ reason
  | .noSuchThing file _ reason | .alreadyExists file _ reason => .said file.isNone reason
  | .otherError _ reason | .resourceBusy _ reason | .resourceVanished _ reason
  | .unsupportedOperation _ reason | .hardwareFault _ reason | .unsatisfiedConstraints _ reason
  | .illegalOperation _ reason | .protocolError _ reason | .timeExpired _ reason
  | .userError reason => .said true reason
  | .unexpectedEof => .said true "unexpected EOF"

/-- Read the file at a path. -/
def readFile (path : Text) : IO (Except FileError Text) := do
  match path.toString? with
  | none => return .error .missing
  | some name =>
    try
      let content ← IO.FS.readBinFile name
      return .ok ⟨content.toList⟩
    catch e => return .error (.ofSystem e)

end LetScript.Cli

open LetScript LetScript.Cli in
/-- Carry out the command line. -/
def main (args : List String) : IO UInt32 := do
  let invocation := Invocation.ofArgs (args.map Text.ofString)
  let contents ← invocation.paths.mapM fun path => do return (path, ← readFile path)
  let outcome := invocation.perform fun path => (contents.lookup path).getD (.error .missing)
  (← IO.getStdout).write ⟨outcome.stdout.bytes.toArray⟩
  (← IO.getStderr).write ⟨outcome.stderr.bytes.toArray⟩
  return outcome.code.toUInt32
