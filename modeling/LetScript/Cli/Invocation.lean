import LetScript.Cli.Help
import LetScript.Settings.Basic

/-!
# Invocations

What a command line asks for.  Wrong flags come first, then a page of help or the version, which
need no settings.  Everything else happens after the settings are read.
-/

namespace LetScript.Cli

/-- A request for help: a page, or a topic that does not exist. -/
inductive Lookup where
  /-- The page of a topic, which may list what can follow the topic. -/
  | page (t : Topic) (listing : Bool)
  /-- There is no such topic. -/
  | unknown (name : Text)
deriving DecidableEq

/-- What is done once the settings are read. -/
inductive Task where
  /-- Look up a page of help. -/
  | help (l : Lookup)
  /-- Give up, because of wrong flags behind a command. -/
  | misuse (e : FlagError) (t : Topic)
  /-- Look up a page because of a flag behind a command. -/
  | helpFlag (l : Lookup)
  /-- Carry out a command. -/
  | command (c : Command) (args : List Text)
deriving DecidableEq

/-- What the flags before the command say. -/
structure Options where
  /-- Where the settings are; no settings are read from an empty path. -/
  config : Text
  /-- Whether each stage is logged. -/
  verbose : Bool
  /-- The behaviours to turn on. -/
  switches : Switches
deriving DecidableEq

/-- What the flags before the command say. -/
def Options.ofFlags (fs : Flags) : Options where
  config := fs.textOf .config
  verbose := fs.isOn .verbose
  switches := {
    precedence := fs.isOn .precedence
    assignments := fs.isOn .assignments
    symbolTable := fs.isOn .symbols
    gate := fs.isOn .gate
    arithmetic := fs.isOn .arithmetic }

/-- What a command line asks for. -/
inductive Invocation where
  /-- Nothing, because its flags are wrong. -/
  | misuse (e : FlagError)
  /-- A page of help. -/
  | helpFlag (l : Lookup)
  /-- The version. -/
  | version
  /-- A task. -/
  | task (o : Options) (t : Task)
deriving DecidableEq

/-- Look for help below a topic.  Without a name, the page is that of the topic itself; `again`
says that help on help was asked for, and then its page lists what can follow. -/
def Topic.lookup (t : Topic) (again : Bool) (args : List Text) : Lookup :=
  match args.head? with
  | none => .page t false
  | some name =>
    if name.isEmpty then .page t false
    else
      match t.below? name with
      | none => .unknown name
      | some (.help of) => .page (.help of) again
      | some found => .page found false

/-- Whether a topic is the command that shows help. -/
def Topic.isHelp : Topic → Bool
  | help _ => true
  | _ => false

/-- The topic to which a request for help belongs: what the command that shows help is told stands
for what follows the topic before it. -/
def Topic.subject (t before : Topic) : Topic := if t.isHelp then before else t

/-- What is done without a further command. -/
def Task.plain (before t : Topic) (args : List Text) : Task :=
  match t with
  | .command c => .command c args
  | _ => .help ((t.subject before).lookup t.isHelp args)

/-- What the arguments behind the name of a command ask for.  `before` is the topic that the
command follows. -/
def Task.ofArgs (before t : Topic) (args : List Text) : Task :=
  match h : Flags.ofArgs Flag.ofCommand args with
  | .error e => .misuse e t
  | .ok fs =>
    if fs.isOn .help then .helpFlag ((t.subject before).lookup t.isHelp fs.args)
    else
      match hargs : fs.args with
      | [] => .plain before t []
      | name :: rest =>
        match t.below? name with
        | some next =>
          have : rest.length < args.length := by
            simpa [hargs, Nat.succ_le_iff] using Flags.length_args_le h
          Task.ofArgs t next rest
        | none => .plain before t (name :: rest)
termination_by args.length

/-- What the arguments behind the flags of the program ask for. -/
def Task.ofAppArgs (args : List Text) : Task :=
  match args with
  | [] => .help (Topic.app.lookup false [])
  | name :: rest =>
    match Topic.app.below? name with
    | some t => Task.ofArgs .app t rest
    | none => .help (Topic.app.lookup false args)

/-- What a command line asks for. -/
def Invocation.ofArgs (args : List Text) : Invocation :=
  match Flags.ofArgs Flag.ofApp args with
  | .error e => .misuse e
  | .ok fs =>
    if fs.isOn .help then .helpFlag (Topic.app.lookup false fs.args)
    else if fs.isOn .version then .version
    else .task (.ofFlags fs) (.ofAppArgs fs.args)

end LetScript.Cli
