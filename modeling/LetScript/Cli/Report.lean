import LetScript.Cli.Files
import LetScript.Program

/-!
# Test reports

What the directives of scripts say, file by file.  A file that cannot be compiled has one entry,
and every other file has one for each requirement.  The report on several files is the report on
each of them, one behind the other.
-/

namespace LetScript.Cli

/-- How files are read. -/
abbrev FileReader := Text → Except FileError Text

/-- One entry of a report. -/
inductive Entry where
  /-- The file could not be compiled. -/
  | error (reason : Text)
  /-- A requirement, and whether it is met. -/
  | result (r : Requirement) (passed : Bool)
deriving DecidableEq

namespace Entry

/-- The line of an entry, for a given file. -/
def text (file : Text) : Entry → Text
  | error reason => "ERROR " ++ file ++ ": " ++ reason ++ "\n"
  | result r passed =>
    (if passed then "PASS " else "FAIL ") ++ file ++ " (" ++ r.text ++ ")\n"

/-- Whether an entry counts as a failure. -/
def failed : Entry → Bool
  | error _ => true
  | result _ passed => !passed

end Entry

/-- The report on one file. -/
structure FileReport where
  /-- The path of the file. -/
  file : Text
  /-- The entries. -/
  entries : List Entry
  /-- The warnings about its directives. -/
  warnings : List Text
deriving DecidableEq

namespace FileReport

/-- The report on the file at a path. -/
def of (read : FileReader) (s : Settings) (file : Text) : FileReport :=
  match read file with
  | .error e => ⟨file, [.error (e.text file)], []⟩
  | .ok script =>
    match verify s script with
    | .error f => ⟨file, [.error f.text], []⟩
    | .ok v => ⟨file, v.results.map fun (r, passed) => .result r passed, v.warnings⟩

/-- The lines of the report. -/
def text (r : FileReport) : Text := Text.concat (r.entries.map (Entry.text r.file))

/-- The number of failures. -/
def failures (r : FileReport) : Nat := r.entries.countP Entry.failed

/-- The warnings as they are logged. -/
def notes (r : FileReport) : List Text := r.warnings.map fun w => r.file ++ ": " ++ w

end FileReport

end LetScript.Cli
