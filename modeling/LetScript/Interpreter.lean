import LetScript.Context
import LetScript.Cursor

/-!
# Running a script

Expressions are evaluated in order, operands from the left.  A declaration binds its name to the
value of its expression; an assignment does so too, but its name must be bound *before* its
expression is evaluated.  The first failure ends the run.
-/

namespace LetScript

/-- A failure of a run, and where it happened. -/
structure RuntimeError where
  /-- Where it happened. -/
  location : Location
  /-- What happened. -/
  fault : Fault
deriving DecidableEq

/-- The full wording of a failure. -/
def RuntimeError.text (e : RuntimeError) : Text := e.location.text ++ " " ++ e.fault.text

/-- The value of an expression and the scope behind it.  With `arithmetic`, sums are evaluated;
other binary operations never are. -/
def eval (arithmetic : Bool) : Node → Context → Except RuntimeError (Value × Context)
  | .literal (.integer n) _, ctx => .ok (.integer n, ctx)
  | .literal (.string s) _, ctx => .ok (.string s, ctx)
  | .declaration name _ expr _, ctx =>
    match eval arithmetic expr ctx with
    | .error e => .error e
    | .ok (v, ctx') => .ok (v, ctx'.set name v)
  | .assignment name expr l, ctx =>
    match ctx.get? name with
    | none => .error ⟨l, .unknownVariable name⟩
    | some _ =>
      match eval arithmetic expr ctx with
      | .error e => .error e
      | .ok (v, ctx') => .ok (v, ctx'.set name v)
  | .reference name l, ctx =>
    match ctx.get? name with
    | none => .error ⟨l, .unknownVariable name⟩
    | some v => .ok (v, ctx)
  | .binary left op right l, ctx =>
    if !arithmetic then .error ⟨l, .uninterpretable⟩
    else if op ≠ .plus then .error ⟨l, .unsupportedOperator op⟩
    else
      match eval arithmetic left ctx with
      | .error e => .error e
      | .ok (v, ctx₁) =>
        match eval arithmetic right ctx₁ with
        | .error e => .error e
        | .ok (w, ctx₂) =>
          match v.add w with
          | .error f => .error ⟨l, f⟩
          | .ok sum => .ok (sum, ctx₂)

/-! ## The interpreter -/

/-- Expressions that are being run. -/
structure Interpreter where
  /-- Whether sums are evaluated. -/
  arithmetic : Bool
  /-- What the scope of each run is called. -/
  contextName : Text
  /-- The expressions, up to where they have been run. -/
  cursor : Cursor Node

namespace Interpreter

/-- The expressions not yet run. -/
def rest (i : Interpreter) : List Node := i.cursor.rest

/-- The scope behind an expression of the script, whose value nothing asks for. -/
def step (arithmetic : Bool) (ctx : Context) (n : Node) : Except RuntimeError Context :=
  match eval arithmetic n ctx with
  | .error e => .error e
  | .ok (_, ctx') => .ok ctx'

/-- Run what is left, in a scope of its own.  After a failure what is left begins behind the
expression that failed. -/
def run (i : Interpreter) : Except RuntimeError Context × Interpreter :=
  let (answer, cursor) := i.cursor.foldUntil (step i.arithmetic) (Context.ofName i.contextName)
  (answer, { i with cursor })

end Interpreter

end LetScript
