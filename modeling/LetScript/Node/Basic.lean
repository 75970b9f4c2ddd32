import LetScript.Location

/-!
# Syntax trees

A script is a list of expressions.  Declarations and assignments are expressions too, and so may
stand as operands.
-/

namespace LetScript

/-- The operator of a binary operation. -/
inductive Operator where
  /-- Addition. -/
  | plus
  /-- Subtraction. -/
  | minus
  /-- Multiplication. -/
  | times
  /-- Division. -/
  | divide
  /-- A symbol that no script can contain, in trees made by hand. -/
  | unknown (symbol : Text)
deriving DecidableEq

namespace Operator

/-- How an operator is written. -/
def symbol : Operator → Text
  | plus => "+"
  | minus => "-"
  | times => "*"
  | divide => "/"
  | unknown s => s

/-- The operator that is written like this. -/
def ofSymbol (s : Text) : Operator :=
  if s = "+" then plus
  else if s = "-" then minus
  else if s = "*" then times
  else if s = "/" then divide
  else unknown s

end Operator

/-- A literal. -/
inductive Literal where
  /-- An unsigned 32-bit number. -/
  | integer (n : UInt32)
  /-- A string. -/
  | string (s : Text)
deriving DecidableEq

/-- The name of a type as a script writes it. -/
structure TypeName where
  /-- What is written. -/
  name : Text
  /-- Where it is written. -/
  location : Location
deriving DecidableEq

/-- An expression of a script. -/
inductive Node where
  /-- A number or a string. -/
  | literal (value : Literal) (location : Location)
  /-- Two operands and an operator, located at the operator. -/
  | binary (left : Node) (op : Operator) (right : Node) (location : Location)
  /-- The declaration of a name, located at its keyword. -/
  | declaration (name : Text) (type : Option TypeName) (expr : Node) (location : Location)
  /-- The assignment of a name, located at the name. -/
  | assignment (name : Text) (expr : Node) (location : Location)
  /-- The use of a name. -/
  | reference (name : Text) (location : Location)
deriving DecidableEq

namespace Node

/-- Where an expression is located. -/
def location : Node → Location
  | literal _ l => l
  | binary _ _ _ l => l
  | declaration _ _ _ l => l
  | assignment _ _ l => l
  | reference _ l => l

end Node

end LetScript
