import LetScript.Text.Basic

/-!
# The LLVM modules of scripts

The module of a script has one global for each string literal and a function `main` without
branches.  Its values are 32-bit words and addresses of globals, and the types of instructions
keep them apart.  Instructions with a result are numbered from one.
-/

namespace LetScript.Llvm

/-- A global that holds a string and a NUL byte. -/
structure Global where
  /-- Its number; globals are numbered from zero. -/
  index : Nat
  /-- The string, without the NUL byte. -/
  content : Text
deriving DecidableEq

namespace Global

/-- The bytes that a global holds. -/
def bytes (g : Global) : List UInt8 := g.content.bytes ++ [0]

/-- The number of bytes that a global holds. -/
def size (g : Global) : Nat := g.bytes.length

end Global

/-- A 32-bit operand. -/
inductive Word where
  /-- A constant. -/
  | const (n : UInt32)
  /-- The result of the instruction with this number. -/
  | temp (id : Nat)
deriving DecidableEq

/-- A value that can be bound to a name. -/
inductive Operand where
  /-- A number. -/
  | word (w : Word)
  /-- The address of a string. -/
  | address (g : Global)
deriving DecidableEq

/-- The operation of an arithmetic instruction. -/
inductive Arith where
  /-- The sum, modulo 2 ^ 32. -/
  | add
  /-- The difference, modulo 2 ^ 32. -/
  | sub
  /-- The product, modulo 2 ^ 32. -/
  | mul
  /-- The unsigned quotient, rounded down. -/
  | udiv
deriving DecidableEq

/-- An instruction of `main`. -/
inductive Instr where
  /-- Compute a word. -/
  | arith (result : Nat) (op : Arith) (left right : Word)
  /-- Print a word as an unsigned number. -/
  | print (w : Word)
  /-- Print a string. -/
  | puts (result : Nat) (g : Global)
  /-- Return zero. -/
  | ret
deriving DecidableEq

/-- The module of a script. -/
structure Module where
  /-- The globals of its strings, in the order of their numbers. -/
  globals : List Global
  /-- The instructions of `main`. -/
  body : List Instr
deriving DecidableEq

end LetScript.Llvm
