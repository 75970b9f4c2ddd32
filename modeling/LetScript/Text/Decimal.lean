import LetScript.Text.Basic

/-!
# Reading decimal numbers

A decimal number is a non-empty run of digits; leading zeros are allowed, signs are not.
-/

namespace LetScript

namespace Text

/-- Whether a byte is a decimal digit. -/
def isDigitByte (b : UInt8) : Bool := 0x30 ≤ b && b ≤ 0x39

/-- The number written by some digits behind the digits of `n`. -/
def digitsValue (n : Nat) (digits : List UInt8) : Nat :=
  digits.foldl (fun m b => m * 10 + (b.toNat - 0x30)) n

/-- The number that a text writes in decimal. -/
def decimal? (t : Text) : Option Nat :=
  if !t.bytes.isEmpty && t.bytes.all isDigitByte then some (digitsValue 0 t.bytes) else none

/-- The number that a text writes in decimal, when it fits into 32 bits. -/
def word? (t : Text) : Option UInt32 :=
  match t.decimal? with
  | some n => if n < UInt32.size then some (UInt32.ofNat n) else none
  | none => none

end Text

end LetScript
