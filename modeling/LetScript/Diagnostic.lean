import LetScript.Node.Parser
import LetScript.Token.Lexer
import LetScript.Typing.Basic

/-!
# Showing errors

A diagnostic is a message and a place.  It is shown as the line of the script at that place, a
caret under the column, and the message behind as many blanks.
-/

namespace LetScript

/-- Anything that can go wrong with a script, perhaps with words in front. -/
inductive Failure where
  /-- It could not be read into tokens. -/
  | lex (e : LexError)
  /-- It could not be read into trees. -/
  | parse (e : ParseError)
  /-- It has a type error. -/
  | type (e : TypeError)
  /-- It failed while it ran. -/
  | runtime (location : Location) (message : Text)
  /-- Something else. -/
  | plain (message : Text)
  /-- A failure with words in front. -/
  | wrapped (words : Text) (inner : Failure)
deriving DecidableEq

namespace Failure

/-- The full wording. -/
def text : Failure → Text
  | lex e => e.text
  | parse e => e.text
  | type e => e.text
  | runtime l m => l.text ++ " " ++ m
  | plain m => m
  | wrapped words inner => words ++ inner.text

/-- The failure behind all words in front. -/
def cause : Failure → Failure
  | wrapped _ inner => inner.cause
  | f => f

/-- Whether it comes from reading tokens. -/
def isLex (f : Failure) : Bool :=
  match f.cause with
  | lex _ => true
  | _ => false

/-- Whether it comes from reading trees. -/
def isParse (f : Failure) : Bool :=
  match f.cause with
  | parse _ => true
  | _ => false

end Failure

/-- A message at a place. -/
structure Diagnostic where
  /-- Where it points. -/
  location : Location
  /-- What it says. -/
  message : Text
deriving DecidableEq

namespace Diagnostic

/-- The message of an error of the script points to it; any other failure points nowhere and
says everything. -/
def ofFailure (f : Failure) : Diagnostic :=
  match f.cause with
  | .lex e => ⟨e.location, e.message⟩
  | .parse e => ⟨e.location, e.message⟩
  | .type e => ⟨e.location, e.text⟩
  | _ => ⟨.nowhere, f.text⟩

/-- The line of a script with a given number. -/
def lineAt? (script : Text) (line : Int) : Option Text :=
  if line < 1 then none else script.lines[line.toNat - 1]?

/-- A diagnostic, shown in its script.  When the script has no such line, only the message is
shown. -/
def render (script : Text) (d : Diagnostic) : Text :=
  "error at line " ++ Text.ofInt d.location.line ++ " column " ++ Text.ofInt d.location.column
    ++ ":\n" ++
    match lineAt? script d.location.line with
    | none => d.message ++ "\n"
    | some line =>
      let pad := Text.replicate (d.location.column - 1).toNat 0x20
      line ++ "\n" ++ pad ++ "^\n" ++ pad ++ d.message ++ "\n"

end Diagnostic

/-- A failure, shown in its script. -/
def Failure.render (script : Text) (f : Failure) : Text :=
  (Diagnostic.ofFailure f).render script

end LetScript
