import LetScript.Node.Basic
import LetScript.Text.Quoted

/-!
# Outlines of trees

The outline of a tree has a line for each node, parents before children, and each child two
blanks further to the right than its parent.
-/

namespace LetScript

/-- A literal in an outline. -/
def Literal.text : Literal → Text
  | integer n => "Integer(" ++ Text.ofNat n.toNat ++ ")"
  | string s => "String(" ++ s.quoted ++ ")"

namespace Node

/-- The part of an outline that starts with the type of a declaration. -/
def typeText : Option TypeName → Text
  | some t => ": " ++ t.name
  | none => ∅

/-- The blanks in front of a node at a depth. -/
def indentation (depth : Nat) : Text := Text.replicate (2 * depth) 0x20

/-- What an outline says about a node itself. -/
def heading : Node → Text
  | literal v l => "Literal " ++ v.text ++ " @" ++ l.text
  | binary _ op _ l => "BinaryOperation " ++ op.symbol ++ " @" ++ l.text
  | declaration name type _ l => "LetOperation " ++ name ++ typeText type ++ " @" ++ l.text
  | assignment name _ l => "AssignmentOperation " ++ name ++ " @" ++ l.text
  | reference name l => "Reference " ++ name ++ " @" ++ l.text

/-- The line of a node at a depth. -/
def lineAt (depth : Nat) (n : Node) : Text := indentation depth ++ n.heading ++ "\n"

/-- The lines of a node and of everything below it. -/
def linesAt (depth : Nat) (n : Node) : List Text :=
  lineAt depth n ::
    match n with
    | literal .. => []
    | binary left _ right _ => linesAt (depth + 1) left ++ linesAt (depth + 1) right
    | declaration _ _ expr _ => linesAt (depth + 1) expr
    | assignment _ expr _ => linesAt (depth + 1) expr
    | reference .. => []

/-- The outline of a tree. -/
def outline (n : Node) : Text := Text.concat (linesAt 0 n)

end Node

/-- The outlines of the expressions of a script, one behind the other. -/
def outlineAll (nodes : List Node) : Text := Text.concat (nodes.map Node.outline)

end LetScript
