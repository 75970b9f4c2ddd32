import LetScript.Llvm.Basic

/-!
# The text of a module

Besides the globals and `main`, every module has the function `print`, which prints a word with
the C function `printf`, and declares the C function `puts`.
-/

namespace LetScript.Llvm

/-- The digit of a number below 16, in upper case. -/
def upperHexDigit (n : Nat) : UInt8 :=
  if n < 10 then UInt8.ofNat (0x30 + n) else UInt8.ofNat (0x37 + n)

/-- A byte in a character array: printable ASCII stands for itself, quote and backslash apart,
and all else is written in hexadecimal. -/
def escapeByte (b : UInt8) : List UInt8 :=
  if 0x20 ≤ b && b ≤ 0x7E && b != 0x22 && b != 0x5C then [b]
  else [0x5C, upperHexDigit (b.toNat / 16), upperHexDigit (b.toNat % 16)]

/-- A character array. -/
def charArray (bytes : List UInt8) : Text :=
  "c\"" ++ ⟨bytes.flatMap escapeByte⟩ ++ "\""

/-- The type of a character array. -/
def arrayType (size : Nat) : Text := "[" ++ Text.ofNat size ++ " x i8]"

/-- The definition of a constant global. -/
def definition (name : Text) (bytes : List UInt8) : Text :=
  "@" ++ name ++ " = constant " ++ arrayType bytes.length ++ " " ++ charArray bytes ++ "\n"

/-- The address of the first byte of a global. -/
def address (name : Text) (size : Nat) : Text :=
  let type := arrayType size
  "i8* getelementptr (" ++ type ++ ", " ++ type ++ "* @" ++ name ++ ", i32 0, i32 0)"

namespace Global

/-- The name of a global. -/
def name (g : Global) : Text := ".str." ++ Text.ofNat g.index

/-- The definition of a global. -/
def text (g : Global) : Text := definition g.name g.bytes

/-- The address of the string in a global. -/
def address (g : Global) : Text := Llvm.address g.name g.size

end Global

/-- A word as a signed number of 32 bits. -/
def signed (n : UInt32) : Int :=
  if n.toNat < 0x80000000 then n.toNat else (n.toNat : Int) - 0x100000000

/-! ## Constants

A constant of at least four hexadecimal digits is written in hexadecimal when that is much more
uniform than its decimal form: when it has no more than one distinct digit for every three digits
begun, and the share of distinct digits is larger in decimal by a fifth.  Shares are
double-precision numbers.
-/

/-- The number of distinct digits. -/
def distinct (digits : List Char) : Nat := digits.eraseDups.length

/-- The share of distinct digits among as many as can be distinct in a base. -/
def variety (base : Nat) (digits : List Char) : Float :=
  Float.ofNat (distinct digits) / Float.ofNat (min digits.length base)

/-- Whether a constant is written in hexadecimal. -/
def prefersHex (n : Nat) : Bool :=
  if n < 0x1000 then false
  else
    let hex := Nat.toDigits 16 n
    let dec := Nat.toDigits 10 n
    distinct hex ≤ (hex.length + 2) / 3 && variety 16 hex + 0.2 ≤ variety 10 dec

/-- A constant; negative ones are always decimal. -/
def constant (n : Int) : Text :=
  if n < 0 then Text.ofInt n
  else if prefersHex n.toNat then
    "u0x" ++ Text.ofChars ((Nat.toDigits 16 n.toNat).map Char.toUpper)
  else Text.ofInt n

/-- A constant with its type.  It is written as it is given, whether it fits into 32 bits or
not. -/
def typedConstant (n : Int) : Text := "i32 " ++ constant n

/-! ## Operands and instructions -/

/-- A word as an operand, without its type. -/
def Word.text : Word → Text
  | const n => constant (signed n)
  | temp id => "%" ++ Text.ofNat id

/-- An operand with its type. -/
def Operand.text : Operand → Text
  | word w => "i32 " ++ w.text
  | address g => g.address

/-- The name of an operation. -/
def Arith.name : Arith → Text
  | add => "add"
  | sub => "sub"
  | mul => "mul"
  | udiv => "udiv"

/-- An instruction, on a line of its own. -/
def Instr.text : Instr → Text
  | arith id op left right =>
    "\t%" ++ Text.ofNat id ++ " = " ++ op.name ++ " i32 " ++ left.text ++ ", " ++ right.text ++ "\n"
  | print w => "\tcall void @print(i32 " ++ w.text ++ ")\n"
  | puts id g => "\t%" ++ Text.ofNat id ++ " = call i32 @puts(" ++ g.address ++ ")\n"
  | ret => "\tret i32 0\n"

/-- The name of the global with the format of `printf`. -/
def formatName : Text := "._printf_fmt"

/-- The format of `printf`: an unsigned number and a newline. -/
def format : List UInt8 := (Text.ofString "%u\n\x00").bytes

/-- The function `print`. -/
def printFunction : Text :=
  "define void @print(i32 %v) \x7b\n0:\n\t%1 = call i32 (i8*, ...) @printf("
    ++ address formatName format.length ++ ", i32 %v)\n\tret void\n\x7d\n"

/-- The declaration of `printf`. -/
def printfDeclaration : Text := "declare i32 @printf(i8* %format, ...)\n"

/-- The declaration of `puts`. -/
def putsDeclaration : Text := "declare i32 @puts(i8* %s)\n"

/-- The function `main`. -/
def mainFunction (body : List Instr) : Text :=
  "define i32 @main() \x7b\n0:\n" ++ Text.concat (body.map Instr.text) ++ "\x7d\n"

/-- The text of a module. -/
def Module.text (m : Module) : Text :=
  definition formatName format ++ Text.concat (m.globals.map Global.text) ++ "\n"
    ++ printFunction ++ "\n" ++ printfDeclaration ++ "\n" ++ putsDeclaration ++ "\n"
    ++ mainFunction m.body

end LetScript.Llvm
