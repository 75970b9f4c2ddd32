import LetScript.Diagnostic
import LetScript.Directive
import LetScript.Interpreter
import LetScript.Llvm.Lowering
import LetScript.Settings.Basic
import LetScript.Typing.Checker

/-!
# From script to program

Compiling reads a script into tokens and trees and checks its types.  Type errors do not stop
it.  A program can be run, lowered to a module, or judged by its directives.
-/

namespace LetScript

/-- A script that could be read. -/
structure Program where
  /-- The script. -/
  script : Text
  /-- Its tokens. -/
  tokens : List Token
  /-- Its expressions. -/
  nodes : List Node
  /-- Its type errors. -/
  typeErrors : List TypeError

/-- A script that could not be read. -/
structure Rejection where
  /-- Its tokens, if it has any without a fault. -/
  tokens : List Token
  /-- What is wrong. -/
  failure : Failure

/-- Compile a script. -/
def compile (s : Settings) (script : Text) : Except Rejection Program :=
  match tokenize script with
  | .error e => .error ⟨[], .lex e⟩
  | .ok tokens =>
    match parse s.grammar tokens with
    | .error e => .error ⟨tokens, .parse e⟩
    | .ok nodes => .ok ⟨script, tokens, nodes, check s.switches.symbolTable nodes⟩

/-- Why a program was not run to its end. -/
inductive RunError where
  /-- It has type errors, and the settings do not run such programs. -/
  | typeErrors
  /-- It failed. -/
  | failed (e : RuntimeError)
deriving DecidableEq

/-- The full wording. -/
def RunError.text : RunError → Text
  | typeErrors => "program has type errors"
  | failed e => e.text

namespace Program

/-- Run a program. -/
def run (s : Settings) (p : Program) : Except RunError Context :=
  if s.switches.gate && !p.typeErrors.isEmpty then .error .typeErrors
  else
    match (Interpreter.mk s.switches.arithmetic s.context p.nodes).run.1 with
    | .ok ctx => .ok ctx
    | .error e => .error (.failed e)

/-- Lower a program to a module. -/
def emit (p : Program) : Except Llvm.LoweringError Llvm.Module := (Llvm.Generator.mk p.nodes).run.1

/-- Judge a program by its directives. -/
def verdict (p : Program) : Verdict := Verdict.of p.script p.typeErrors.length

/-- The type errors of a program, shown in its script. -/
def diagnostics (p : Program) : List Text :=
  p.typeErrors.map fun e => (Failure.type e).render p.script

end Program

/-- Compile a script and judge it by its directives. -/
def verify (s : Settings) (script : Text) : Except Failure Verdict :=
  match compile s script with
  | .error r => .error r.failure
  | .ok p => .ok p.verdict

end LetScript
