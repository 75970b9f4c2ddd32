import LetScript.Cli.Invocation
import LetScript.Cli.Report
import LetScript.Llvm.Printer
import LetScript.Node.Outline
import LetScript.Settings.Yaml

/-!
# Sessions

Carrying out a command line: what is written to each of the two streams, and the exit status.
-/

namespace LetScript.Cli

/-! ## Output -/

/-- What is written on the way. -/
structure Output where
  /-- What is written to the standard output. -/
  out : Text := ∅
  /-- The messages of the log, without their mark. -/
  log : List Text := []
deriving DecidableEq

namespace Output

/-- One output, then another. -/
def append (a b : Output) : Output := ⟨a.out ++ b.out, a.log ++ b.log⟩

instance : Append Output := ⟨append⟩

/-- Write to the standard output. -/
def print (t : Text) : Output := ⟨t, []⟩

/-- Write a message to the log. -/
def note (message : Text) : Output := ⟨∅, [message]⟩

/-- Write all outputs of a list. -/
def concat (os : List Output) : Output := os.foldr append {}

end Output

/-- How a command line ends. -/
inductive Ending where
  /-- Well. -/
  | success
  /-- With an exit status and a message; no message is shown if it is empty. -/
  | failure (code : Nat) (message : Text)
deriving DecidableEq

/-- All that a command line does. -/
structure Outcome where
  /-- The exit status. -/
  code : Nat
  /-- What it writes to the standard output. -/
  stdout : Text
  /-- What it writes to the standard error stream. -/
  stderr : Text
deriving DecidableEq

/-- A line of the log: a mark, the message and a newline, unless the message ends in one. -/
def logLine (message : Text) : Text :=
  appName ++ ": " ++ message ++ (if message.bytes.getLast? = some 10 then ∅ else ("\n" : Text))

/-- The message of an ending, on a line of its own. -/
def Ending.text : Ending → Text
  | success => ∅
  | failure _ message => if message.isEmpty then ∅ else message ++ "\n"

/-- The exit status of an ending. -/
def Ending.code : Ending → Nat
  | success => 0
  | failure code _ => code

/-- The outcome of an output and an ending; the log is only shown on demand. -/
def Outcome.of (verbose : Bool) (o : Output) (e : Ending) : Outcome where
  code := e.code
  stdout := o.out
  stderr := (if verbose then Text.concat (o.log.map logLine) else ∅) ++ e.text

/-! ## Commands -/

/-- The line above each diagnostic. -/
def ruler : Text := "====================\n"

/-- Show a failure in a script. -/
def showFailure (script : Text) (f : Failure) : Output := .print (ruler ++ f.render script)

/-- Show a type error in a script, and log what it is. -/
def showTypeError (script : Text) (e : TypeError) : Output :=
  .note e.summary ++ showFailure script (.type e)

/-- Show the type errors of a program, or that there are none. -/
def showTypeErrors (p : Program) : Output :=
  if p.typeErrors.isEmpty then .print "Typechecker is happy!\n"
  else .print "Typechecker is sad :(\n" ++ .concat (p.typeErrors.map (showTypeError p.script))

/-- The ending of a command that got no script. -/
def missingScript : Ending := .failure 2 "missing script file"

/-- Log the sizes of a program. -/
def noteSizes (p : Program) : Output :=
  .note (Text.ofNat p.tokens.length ++ " tokens, " ++ Text.ofNat p.nodes.length ++ " nodes, " ++
    Text.ofNat p.typeErrors.length ++ " type errors")

/-- Compile the script that the first argument names, and go on with the program. -/
def withProgram (read : FileReader) (s : Settings) (args : List Text)
    (next : Program → Output × Ending) : Output × Ending :=
  let file := args.headD ∅
  if file.isEmpty then ({}, missingScript)
  else
    let started := Output.note ("compiling " ++ file)
    match read file with
    | .error e => (started, .failure 1 (e.text file))
    | .ok script =>
      match compile s script with
      | .error r => (started ++ showFailure script r.failure, .failure 1 ∅)
      | .ok p =>
        let (output, ending) := next p
        (started ++ noteSizes p ++ output, ending)

namespace Command

/-- Check a program and run it, whatever the check says unless the settings forbid it. -/
def doRun (s : Settings) (p : Program) : Output × Ending :=
  let started := showTypeErrors p ++ .note "executing interpreter"
  match p.run s with
  | .ok c => (started ++ .print c.text, .success)
  | .error .typeErrors => (started, .failure 1 RunError.typeErrors.text)
  | .error (.failed e) => (started, .failure 3 ("fatal: " ++ e.text))

/-- Check a program. -/
def doCheck (p : Program) : Output × Ending :=
  (showTypeErrors p, if p.typeErrors.isEmpty then .success else .failure 1 ∅)

/-- Print the module of a program. -/
def doEmit (p : Program) : Output × Ending :=
  match p.emit with
  | .ok m => (.print m.text, .success)
  | .error e => ({}, .failure 1 e.text)

/-- Print the tokens of a program. -/
def doTokens (p : Program) : Output × Ending :=
  (.print (Text.concat (p.tokens.map fun t => t.text ++ "\n")), .success)

/-- Print the trees of a program. -/
def doAst (p : Program) : Output × Ending := (.print (outlineAll p.nodes), .success)

/-- What the reports on some files have written, and how many failures they have counted. -/
structure Tally where
  /-- What has been written. -/
  output : Output := {}
  /-- The number of failures. -/
  failed : Nat := 0

/-- Report on one more file. -/
def Tally.add (read : FileReader) (s : Settings) (t : Tally) (file : Text) : Tally :=
  let r := FileReport.of read s file
  ⟨t.output ++ ⟨r.text, r.notes⟩, t.failed + r.failures⟩

/-- The ending with a number of failures. -/
def Tally.ending (t : Tally) : Ending :=
  if t.failed = 0 then .success
  else .failure 1 (Text.ofNat t.failed ++ " requirement(s) failed")

/-- Report on the directives of scripts. -/
def doTest (read : FileReader) (s : Settings) (files : List Text) : Output × Ending :=
  if files.isEmpty then ({}, missingScript)
  else
    let t := files.foldl (Tally.add read s) {}
    (t.output, t.ending)

/-- Carry out a command. -/
def perform (read : FileReader) (s : Settings) (args : List Text) : Command → Output × Ending
  | run => withProgram read s args (doRun s)
  | check => withProgram read s args doCheck
  | test => doTest read s args
  | emit => withProgram read s args doEmit
  | tokens => withProgram read s args doTokens
  | ast => withProgram read s args doAst

end Command

/-! ## Command lines -/

/-- Show what a request for help finds; `code` is the exit status if that is nothing. -/
def Lookup.perform (code : Nat) : Lookup → Output × Ending
  | page t listing => (.print (t.page listing), .success)
  | unknown name => ({}, .failure code ("No help topic for '" ++ name ++ "'"))

/-- Say what is wrong with the flags, and how they are used. -/
def FlagError.perform (e : FlagError) (t : Topic) : Output × Ending :=
  (.print ("Incorrect Usage: " ++ e.text ++ "\n\n" ++ t.page true), .failure 1 e.text)

/-- Carry out a task. -/
def Task.perform (read : FileReader) (s : Settings) : Task → Output × Ending
  | help l => l.perform 3
  | helpFlag l => l.perform 1
  | misuse e t => e.perform t
  | command c args => c.perform read s args

/-- The error of settings that could not be read. -/
def unreadableSettings (path : Text) (e : FileError) : SettingsError :=
  if e.opened then .unreadable ("yaml: input error: " ++ e.text path)
  else .unreadable (e.text path)

/-- Read the settings at a path; at an empty path they are the default. -/
def loadSettings (read : FileReader) (path : Text) : Except SettingsError (Output × Settings) :=
  if path.isEmpty then .ok ({}, {})
  else
    match read path with
    | .error e => .error (unreadableSettings path e)
    | .ok document =>
      match Settings.ofYaml document with
      | .error e => .error e
      | .ok s => .ok (.note ("loaded config " ++ path), s)

namespace Invocation

/-- The paths of all files that may be read. -/
def paths : Invocation → List Text
  | task o (.command _ args) => o.config :: args
  | task o _ => [o.config]
  | _ => []

/-- Carry out a command line. -/
def perform (read : FileReader) : Invocation → Outcome
  | misuse e => let (output, ending) := e.perform .app; .of false output ending
  | helpFlag l => let (output, ending) := l.perform 1; .of false output ending
  | version => .of false (.print (appName ++ " version " ++ appVersion ++ "\n")) .success
  | task o t =>
    match loadSettings read o.config with
    | .error e => .of o.verbose {} (.failure 1 e.text)
    | .ok (started, s) =>
      let (output, ending) := t.perform read (s.enable o.switches)
      .of o.verbose (started ++ output) ending

end Invocation

end LetScript.Cli
