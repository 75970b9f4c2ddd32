import LetScript.Bindings
import LetScript.Cursor
import LetScript.Llvm.Basic
import LetScript.Node.Basic

/-!
# Lowering scripts to modules

Expressions are lowered in order, operands from the left.  Names are bound to operands while
lowering, so `main` has no memory: a reference is the operand that its name is bound to.  The
name of an assignment must be bound before its expression is lowered.  At the end, `main` prints
every binding.
-/

namespace LetScript.Llvm

/-! ## Errors -/

/-- Why a script cannot be lowered. -/
inductive LoweringFault where
  /-- The name is not bound. -/
  | unknownVariable (name : Text)
  /-- An operand is a string. -/
  | invalidOperands (op : Operator)
  /-- There is no instruction for the operator. -/
  | unsupportedOperator (op : Operator)
deriving DecidableEq

/-- The wording of a fault. -/
def LoweringFault.text : LoweringFault → Text
  | unknownVariable n => "unknown variable: " ++ n
  | invalidOperands op => "invalid operands: operands of " ++ op.symbol ++ " must be integers"
  | unsupportedOperator op => "unsupported operator: " ++ op.symbol

/-- A fault, and where it is. -/
structure LoweringError where
  /-- Where it is. -/
  location : Location
  /-- What it is. -/
  fault : LoweringFault
deriving DecidableEq

/-- The full wording of an error. -/
def LoweringError.text (e : LoweringError) : Text := e.location.text ++ " " ++ e.fault.text

/-! ## Modules under construction -/

/-- What has been lowered so far. -/
structure Draft where
  /-- The operands that names are bound to. -/
  values : Bindings Operand
  /-- The globals made so far. -/
  globals : List Global
  /-- The instructions so far. -/
  body : List Instr
  /-- How many of them have a result. -/
  results : Nat

namespace Draft

/-- The draft of a module without expressions. -/
def empty : Draft := ⟨∅, [], [], 0⟩

/-- Bind a name. -/
def bind (d : Draft) (name : Text) (v : Operand) : Draft :=
  { d with values := d.values.insert name v }

/-- Make a global for a string. -/
def addString (d : Draft) (s : Text) : Operand × Draft :=
  let g : Global := ⟨d.globals.length, s⟩
  (.address g, { d with globals := d.globals ++ [g] })

/-- Append an arithmetic instruction; its result has the next number. -/
def addArith (d : Draft) (op : Arith) (left right : Word) : Operand × Draft :=
  let id := d.results + 1
  (.word (.temp id), { d with body := d.body ++ [.arith id op left right], results := id })

/-- Append the instruction that prints a value. -/
def addPrint (d : Draft) : Operand → Draft
  | .word w => { d with body := d.body ++ [.print w] }
  | .address g =>
    let id := d.results + 1
    { d with body := d.body ++ [.puts id g], results := id }

/-- The module of a draft: `main` prints every binding, in byte order of the names, and
returns. -/
def finish (d : Draft) : Module :=
  let printed := d.values.entries.foldl (fun d e => d.addPrint e.2) d
  ⟨printed.globals, printed.body ++ [.ret]⟩

end Draft

/-! ## Expressions -/

/-- The instruction for an operator. -/
def Arith.ofOperator? : Operator → Option Arith
  | .plus => some add
  | .minus => some sub
  | .times => some mul
  | .divide => some udiv
  | .unknown _ => none

/-- Lower an operation whose operands have been lowered.  The operands must be words, and only
then does the operator matter. -/
def lowerBinary (l : Location) (op : Operator) (left right : Operand) (d : Draft) :
    Except LoweringError (Operand × Draft) :=
  match left, right with
  | .word v, .word w =>
    match Arith.ofOperator? op with
    | some a => .ok (d.addArith a v w)
    | none => .error ⟨l, .unsupportedOperator op⟩
  | _, _ => .error ⟨l, .invalidOperands op⟩

/-- Lower an expression: its operand, and the draft behind it. -/
def lower : Node → Draft → Except LoweringError (Operand × Draft)
  | .literal (.integer n) _, d => .ok (.word (.const n), d)
  | .literal (.string s) _, d => .ok (d.addString s)
  | .declaration name _ expr _, d =>
    match lower expr d with
    | .error e => .error e
    | .ok (v, d') => .ok (v, d'.bind name v)
  | .assignment name expr l, d =>
    match d.values.get? name with
    | none => .error ⟨l, .unknownVariable name⟩
    | some _ =>
      match lower expr d with
      | .error e => .error e
      | .ok (v, d') => .ok (v, d'.bind name v)
  | .reference name l, d =>
    match d.values.get? name with
    | none => .error ⟨l, .unknownVariable name⟩
    | some v => .ok (v, d)
  | .binary left op right l, d =>
    match lower left d with
    | .error e => .error e
    | .ok (v, d₁) =>
      match lower right d₁ with
      | .error e => .error e
      | .ok (w, d₂) => lowerBinary l op v w d₂

/-! ## The generator -/

/-- Expressions that are being lowered. -/
structure Generator where
  /-- The expressions, up to where they have been lowered. -/
  cursor : Cursor Node

namespace Generator

/-- The expressions not yet lowered. -/
def rest (g : Generator) : List Node := g.cursor.rest

/-- The draft behind an expression of the script, whose operand nothing asks for. -/
def step (d : Draft) (n : Node) : Except LoweringError Draft :=
  match lower n d with
  | .error e => .error e
  | .ok (_, d') => .ok d'

/-- Lower what is left to a module of its own.  After an error what is left begins behind the
expression with the error. -/
def run (g : Generator) : Except LoweringError Module × Generator :=
  let (answer, cursor) := g.cursor.foldUntil step Draft.empty
  (answer.map Draft.finish, ⟨cursor⟩)

end Generator

end LetScript.Llvm
