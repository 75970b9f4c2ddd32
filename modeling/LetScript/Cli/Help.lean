import LetScript.Cli.Flags

/-!
# Help pages

The commands, and the pages that describe them.  A page is a list of sections, and the rows of a
section that lists things have their descriptions in one column.
-/

namespace LetScript.Cli

/-- What the program is called. -/
def appName : Text := "caoi"

/-- The version of the program. -/
def appVersion : Text := "0.1.0"

/-! ## Commands -/

/-- The commands that work on scripts. -/
inductive Command where
  | run
  | check
  | test
  | emit
  | tokens
  | ast
deriving DecidableEq

namespace Command

/-- All commands, in the order of the help page. -/
def all : List Command := [run, check, test, emit, tokens, ast]

/-- The name of a command. -/
def name : Command → Text
  | run => "run"
  | check => "check"
  | test => "test"
  | emit => "emit"
  | tokens => "tokens"
  | ast => "ast"

/-- What a command does. -/
def usage : Command → Text
  | run => "check and interpret a script"
  | check => "report type errors only"
  | test => "verify the \x60## Typechecker:\x60 annotations of scripts"
  | emit => "print the LLVM IR of a script"
  | tokens => "print the tokens of a script"
  | ast => "print the syntax tree of a script"

/-- The arguments of a command. -/
def arguments : Command → Text
  | test => "FILE..."
  | _ => "FILE"

/-- The command with a given name. -/
def ofName? (n : Text) : Option Command := all.find? (·.name = n)

end Command

/-- Whether a name is one of the two of the command that shows help. -/
def isHelpName (n : Text) : Bool := n = ("help" : Text) || n = ("h" : Text)

/-- What the command that shows help does. -/
def helpUsage : Text := "Shows a list of commands or help for one command"

/-! ## Rows -/

/-- What a flag does. -/
def Flag.usage : Flag → Text
  | config => "load settings from a YAML FILE"
  | verbose => "log pipeline stages to stderr (default: false)"
  | precedence => "parse * and / tighter than + and - (default: false)"
  | assignments => "enable x = expr and variable references (default: false)"
  | symbols => "check references against earlier declarations (default: false)"
  | arithmetic => "evaluate additions in the interpreter (default: false)"
  | gate => "don't run programs with type errors (default: false)"
  | help => "show help"
  | version => "print the version"

/-- What is shown behind each name of a flag. -/
def Flag.placeholder : Flag → Text
  | config => " FILE"
  | assignments => " x = expr"
  | _ => ∅

/-- The names of a flag as a command line gives them. -/
def Flag.forms (f : Flag) : Text :=
  Text.join ", " (("--" ++ f.name ++ f.placeholder) ::
    f.short?.toList.map fun short => "-" ++ short ++ f.placeholder)

/-- Something that a page lists, and its description. -/
structure Row where
  /-- What is listed. -/
  item : Text
  /-- Its description. -/
  description : Text
deriving DecidableEq

/-- The row of a flag. -/
def Flag.row (f : Flag) : Row := ⟨f.forms, f.usage⟩

/-- The row of a command. -/
def Command.row (c : Command) : Row := ⟨c.name, c.usage⟩

/-- The row of the command that shows help. -/
def helpRow : Row := ⟨"help, h", helpUsage⟩

/-- The lines of some rows: two blanks after the longest item, the descriptions begin. -/
def rowLines (rows : List Row) : List Text :=
  let width := (rows.map fun r => r.item.size).foldl max 0
  rows.map fun r => r.item ++ Text.replicate (width + 2 - r.item.size) 0x20 ++ r.description

/-! ## Pages -/

/-- A part of a page, with a heading over indented lines. -/
structure Section where
  /-- The heading. -/
  heading : Text
  /-- The lines. -/
  lines : List Text
deriving DecidableEq

/-- A section as it is printed. -/
def Section.text (s : Section) : Text :=
  s.heading ++ ":\n" ++ Text.concat (s.lines.map fun line => "   " ++ line ++ "\n")

/-- A page: sections with an empty line between them. -/
def pageText (sections : List Section) : Text := Text.join "\n" (sections.map Section.text)

/-- What a page of help is about. -/
inductive Topic where
  /-- The program. -/
  | app
  /-- A command. -/
  | command (c : Command)
  /-- The command that shows help: that of the program, or that of a command. -/
  | help (of : Option Command)
deriving DecidableEq

namespace Topic

/-- What is typed to get to a topic. -/
def title : Topic → Text
  | app => appName
  | command c => appName ++ " " ++ c.name
  | help none => appName ++ " help"
  | help (some c) => appName ++ " " ++ c.name ++ " help"

/-- What the topic does. -/
def usage : Topic → Text
  | app => "run and check caoi scripts"
  | command c => c.usage
  | help _ => helpUsage

/-- What follows the title on a command line. -/
def arguments : Topic → Text
  | app => "[global options] command [command options]"
  | command c => "[command options] " ++ c.arguments
  | help _ => "[command options] [command]"

/-- The topic that a name stands for when it follows a topic: a command of the program, or the
command that shows help. -/
def below? (t : Topic) (name : Text) : Option Topic :=
  match t with
  | app => if isHelpName name then some (help none) else (Command.ofName? name).map command
  | command c => if isHelpName name then some (help (some c)) else none
  | help of => if isHelpName name then some (help of) else none

/-- The page of a topic.  That of a command lists what can follow it only on demand. -/
def page (t : Topic) (listing : Bool := false) : Text :=
  let name : Section := ⟨"NAME", [t.title ++ " - " ++ t.usage]⟩
  let usage : Section := ⟨"USAGE", [t.title ++ " " ++ t.arguments]⟩
  match t with
  | app =>
    pageText [name, usage, ⟨"VERSION", [appVersion]⟩,
      ⟨"COMMANDS", rowLines (Command.all.map Command.row ++ [helpRow])⟩,
      ⟨"GLOBAL OPTIONS", rowLines (Flag.ofApp.map Flag.row)⟩]
  | _ =>
    let options : Section := ⟨"OPTIONS", rowLines (Flag.ofCommand.map Flag.row)⟩
    if listing then pageText [name, usage, ⟨"COMMANDS", rowLines [helpRow]⟩, options]
    else pageText [name, usage, options]

end Topic

end LetScript.Cli
