import LetScript.Bindings
import LetScript.Cursor
import LetScript.Node.Basic
import LetScript.Typing.Basic

/-!
# Checking types

One walk over the expressions, left operands before right ones and expressions before the names
that they are given to.  Errors do not stop the walk.  With a symbol table the walk records the
type of every declared name, and compares uses and assignments with it; without one it knows
nothing of names.
-/

namespace LetScript

/-- The symbol table, if there is one. -/
abbrev Scope := Option (Bindings Resolution)

/-- The scope in which a name has been declared. -/
def Scope.declare (s : Scope) (name : Text) (r : Resolution) : Scope :=
  s.map (·.insert name r)

/-- What the walk over an expression yields. -/
structure Inference where
  /-- The type of the expression. -/
  type : Resolution
  /-- The scope behind it. -/
  scope : Scope
  /-- Its errors, in the order they were found. -/
  errors : List TypeError

/-- The type of an operation from those of its operands.  Only two types that are both known can
disagree. -/
def joinOperands (l : Location) : Resolution → Resolution → Resolution × List TypeError
  | .invalid, _ => (.invalid, [])
  | _, .invalid => (.invalid, [])
  | .unknown, t => (t, [])
  | t, .unknown => (t, [])
  | .known a, .known b =>
    if a = b then (.known a, []) else (.invalid, [.mismatched l a.name b.name])

/-- The type of a declaration with the written type `declared`, whose expression stands at
`l`. -/
def conform (l : Location) (declared : Ty) : Resolution → Resolution × List TypeError
  | .known a =>
    if declared = a then (.known declared, [])
    else (.invalid, [.mismatched l declared.name a.name])
  | _ => (.known declared, [])

/-- The type of an assignment to a name that is recorded with a type, whose expression stands
at `l`. -/
def reassign (l : Location) : Resolution → Resolution → Resolution × List TypeError
  | .known d, .known a =>
    if d = a then (.known a, []) else (.invalid, [.mismatched l d.name a.name])
  | _, actual => (actual, [])

/-- The walk over an expression. -/
def infer (scope : Scope) : Node → Inference
  | .literal (.integer _) _ => ⟨.known .integer, scope, []⟩
  | .literal (.string _) _ => ⟨.known .string, scope, []⟩
  | .binary left _ right l =>
    let x := infer scope left
    let y := infer x.scope right
    let (type, errors) := joinOperands l x.type y.type
    ⟨type, y.scope, x.errors ++ y.errors ++ errors⟩
  | .declaration name annotation expr _ =>
    let x := infer scope expr
    match annotation with
    | none => ⟨x.type, x.scope.declare name x.type, x.errors⟩
    | some written =>
      match Ty.ofName? written.name with
      | none =>
        ⟨.invalid, x.scope.declare name x.type,
          x.errors ++ [.invalidType written.location written.name]⟩
      | some declared =>
        let (type, errors) := conform expr.location declared x.type
        ⟨type, x.scope.declare name (.known declared), x.errors ++ errors⟩
  | .assignment name expr l =>
    let x := infer scope expr
    match x.scope with
    | none => x
    | some table =>
      match table.get? name with
      | none => ⟨.invalid, x.scope, x.errors ++ [.undefinedVariable l name]⟩
      | some recorded =>
        let (type, errors) := reassign expr.location recorded x.type
        ⟨type, x.scope, x.errors ++ errors⟩
  | .reference name l =>
    match scope with
    | none => ⟨.unknown, scope, []⟩
    | some table =>
      match table.get? name with
      | none => ⟨.invalid, scope, [.undefinedVariable l name]⟩
      | some recorded => ⟨recorded, scope, []⟩

/-- The scope before the first expression. -/
def Scope.initial (symbols : Bool) : Scope := if symbols then some ∅ else none

/-! ## The checker -/

/-- Expressions that are being checked. -/
structure Checker where
  /-- The expressions, up to where they have been checked. -/
  cursor : Cursor Node
  /-- The scope behind those that have been. -/
  scope : Scope
  /-- All errors found so far. -/
  errors : List TypeError

namespace Checker

/-- The checker before the first expression of a script. -/
def ofNodes (symbols : Bool) (nodes : List Node) : Checker :=
  ⟨Cursor.ofList nodes, Scope.initial symbols, []⟩

/-- The scope behind an expression of the script, and all errors up to there. -/
def step : Scope × List TypeError → Node → Scope × List TypeError
  | (scope, errors), n =>
    let x := infer scope n
    (x.scope, errors ++ x.errors)

/-- Check what is left; the answer is the list of all errors found so far. -/
def run (c : Checker) : List TypeError × Checker :=
  let ((scope, errors), cursor) := c.cursor.fold step (c.scope, c.errors)
  (errors, ⟨cursor, scope, errors⟩)

end Checker

/-- The type errors of a script, with or without a symbol table. -/
def check (symbols : Bool) (nodes : List Node) : List TypeError :=
  (Checker.ofNodes symbols nodes).run.1

end LetScript
