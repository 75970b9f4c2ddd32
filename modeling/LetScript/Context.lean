import LetScript.Bindings
import LetScript.Value

/-!
# The bindings of a run

A run has a single scope: a name and the bindings made so far.
-/

namespace LetScript

/-- The scope of a run. -/
structure Context where
  /-- What the scope is called in the output. -/
  name : Text
  /-- The bindings. -/
  bindings : Bindings Value

namespace Context

/-- The scope before a run. -/
def ofName (name : Text) : Context := ⟨name, ∅⟩

/-- Bind a variable, or bind it anew. -/
def set (c : Context) (name : Text) (v : Value) : Context :=
  { c with bindings := c.bindings.insert name v }

/-- The value of a variable. -/
def get? (c : Context) (name : Text) : Option Value := c.bindings.get? name

/-- The names of the bindings, in byte order. -/
def names (c : Context) : List Text := c.bindings.names

/-- The number of bindings. -/
def size (c : Context) : Nat := c.bindings.size

/-- The line of a variable. -/
def bindingLine (entry : Text × Value) : Text :=
  "  - " ++ entry.1 ++ " = " ++ entry.2.text ++ "\n"

/-- How a scope is shown: its name, and a line for each variable in byte order. -/
def text (c : Context) : Text :=
  c.name ++ "\n" ++ Text.concat (c.bindings.entries.map bindingLine)

end Context

end LetScript
