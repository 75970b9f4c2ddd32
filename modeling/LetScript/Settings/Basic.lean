import LetScript.Node.Parser

/-!
# Settings

Which optional behaviours of the language are on.  All of them are off unless something turns
them on.
-/

namespace LetScript

/-- The optional behaviours. -/
structure Switches where
  /-- `*` and `/` bind tighter than `+` and `-`. -/
  precedence : Bool := false
  /-- Names can be used and assigned. -/
  assignments : Bool := false
  /-- The type checker keeps a symbol table. -/
  symbolTable : Bool := false
  /-- A script with type errors is not run. -/
  gate : Bool := false
  /-- Sums are evaluated. -/
  arithmetic : Bool := false
deriving DecidableEq

/-- The behaviours that either side turns on. -/
def Switches.union (s t : Switches) : Switches where
  precedence := s.precedence || t.precedence
  assignments := s.assignments || t.assignments
  symbolTable := s.symbolTable || t.symbolTable
  gate := s.gate || t.gate
  arithmetic := s.arithmetic || t.arithmetic

/-- The scope of a run is called this unless the settings say otherwise. -/
def defaultContext : Text := "Root"

/-- The settings of the language. -/
structure Settings where
  /-- The optional behaviours. -/
  switches : Switches := {}
  /-- What the scope of a run is called. -/
  context : Text := defaultContext
deriving DecidableEq

namespace Settings

/-- Turn behaviours on; nothing is turned off. -/
def enable (s : Settings) (w : Switches) : Settings := { s with switches := s.switches.union w }

/-- Which scripts are read, and how. -/
def grammar (s : Settings) : Grammar := ⟨s.switches.precedence, s.switches.assignments⟩

/-- The number of options that the settings give to the parser: one for each switch that is
on. -/
def parserOptions (s : Settings) : Nat := s.switches.precedence.toNat + s.switches.assignments.toNat

/-- The number of options that the settings give to the type checker. -/
def checkerOptions (s : Settings) : Nat := s.switches.symbolTable.toNat

/-- The number of options that the settings give to the interpreter; the name of the scope is
always given. -/
def interpreterOptions (s : Settings) : Nat := 1 + s.switches.arithmetic.toNat

end Settings

end LetScript
