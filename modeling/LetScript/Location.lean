import LetScript.Text.Basic

/-!
# Places in a script

Lines and columns count from one; a column counts characters.  The place `0:0` belongs to
messages that point nowhere.
-/

namespace LetScript

/-- A place in a script. -/
structure Location where
  /-- The line, the first being line 1. -/
  line : Int
  /-- The column, the first of each line being column 1. -/
  column : Int
deriving DecidableEq

namespace Location

/-- The place of a message that points nowhere. -/
def nowhere : Location := ⟨0, 0⟩

instance : Inhabited Location := ⟨nowhere⟩

/-- The first place of a script. -/
def start : Location := ⟨1, 1⟩

/-- The place behind a character: a newline ends its line. -/
def after (l : Location) (c : Char) : Location :=
  if c = '\n' then ⟨l.line + 1, 1⟩ else ⟨l.line, l.column + 1⟩

/-- The place behind a list of characters. -/
def afterAll (l : Location) (cs : List Char) : Location := cs.foldl after l

@[simp] theorem afterAll_nil (l : Location) : l.afterAll [] = l := rfl

@[simp] theorem afterAll_cons (l : Location) (c : Char) (cs : List Char) :
    l.afterAll (c :: cs) = (l.after c).afterAll cs := rfl

theorem afterAll_append (l : Location) (cs ds : List Char) :
    l.afterAll (cs ++ ds) = (l.afterAll cs).afterAll ds := by
  simp [afterAll, List.foldl_append]

/-- A place is written as line, colon, column. -/
def text (l : Location) : Text := Text.ofInt l.line ++ ":" ++ Text.ofInt l.column

end Location

end LetScript
