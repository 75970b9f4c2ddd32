import LetScript.Location

/-!
# Types and type errors

There are two types.  An expression whose type cannot be told is *unknown* and agrees with every
type; one that already has an error is *invalid*, and no further error is reported for it.
-/

namespace LetScript

/-- A type of the language. -/
inductive Ty where
  /-- Numbers. -/
  | integer
  /-- Strings. -/
  | string
deriving DecidableEq

namespace Ty

/-- How a script writes a type. -/
def name : Ty → Text
  | integer => "Integer"
  | string => "String"

/-- The type that is written like this. -/
def ofName? (n : Text) : Option Ty :=
  if n = "Integer" then some integer
  else if n = "String" then some string
  else none

end Ty

/-- What the checker knows of the type of an expression. -/
inductive Resolution where
  /-- Its type. -/
  | known (t : Ty)
  /-- Nothing; it agrees with every type. -/
  | unknown
  /-- That it has an error, which has been reported. -/
  | invalid
deriving DecidableEq

/-- How a resolution is shown. -/
def Resolution.name : Resolution → Text
  | known t => t.name
  | unknown => "~unknown"
  | invalid => "~invalid"

/-- What a written type resolves to. -/
def Resolution.ofName (n : Text) : Resolution :=
  match Ty.ofName? n with
  | some t => known t
  | none => invalid

/-- An error of a script that could be read.  Types are reported by their names. -/
inductive TypeError where
  /-- Two types that should be the same are not. -/
  | mismatched (location : Location) (first second : Text)
  /-- The written type does not exist. -/
  | invalidType (location : Location) (name : Text)
  /-- The name has not been declared. -/
  | undefinedVariable (location : Location) (name : Text)
deriving DecidableEq

namespace TypeError

/-- Where the error is. -/
def location : TypeError → Location
  | mismatched l _ _ => l
  | invalidType l _ => l
  | undefinedVariable l _ => l

/-- What is wrong. -/
def text : TypeError → Text
  | mismatched _ a b => "mismatched types: " ++ a ++ " and " ++ b
  | invalidType _ n => "invalid type: " ++ n
  | undefinedVariable _ n => "undefined variable: " ++ n

/-- What is wrong and where, on one line. -/
def summary : TypeError → Text
  | mismatched l a b => "mismatched types " ++ a ++ " and " ++ b ++ " at " ++ l.text
  | invalidType l n => "invalid type " ++ n ++ " at " ++ l.text
  | undefinedVariable l n => "undefined variable " ++ n ++ " at " ++ l.text

end TypeError

end LetScript
