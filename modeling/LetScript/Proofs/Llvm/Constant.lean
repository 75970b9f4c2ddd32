import LetScript.Llvm.Printer
import LetScript.Proofs.Text.Fields
import Mathlib.Tactic.IntervalCases
import Mathlib.Tactic.Common

/-!
# Reading constants back

The text of a module writes a constant as a signed number of 32 bits, in decimal or, where that is
more uniform, as `u0x` and hexadecimal digits.  Whoever reads the module takes the number that is
written modulo 2 ^ 32.  The main result, `wordOfText?_text_const`, says that the word read back is
the word that was written, whichever of the forms was chosen and whatever its sign.
-/

namespace LetScript

namespace Text

/-- A number does not begin with anything but a digit. -/
lemma dropStart?_ofNat {start : Text} {x : UInt8} (hx : start.bytes.head? = some x)
    (hdigit : isDigitByte x = false) (n : Nat) : (ofNat n).dropStart? start = none := by
  have hdigits := (writes_ofNat n).digits
  obtain ⟨xs, hxs⟩ := List.head?_eq_some_iff.1 hx
  rw [dropStart?, hxs, if_neg]
  intro hprefix
  obtain ⟨rest, hrest⟩ := List.isPrefixOf_iff_prefix.1 hprefix
  rw [← hrest] at hdigits
  simp [hdigit] at hdigits

/-- Whether a byte is a hexadecimal digit in upper case. -/
def isHexByte (b : UInt8) : Bool := isDigitByte b || (0x41 ≤ b && b ≤ 0x46)

/-- What a hexadecimal digit stands for. -/
def hexValue (b : UInt8) : Nat := if isDigitByte b then b.toNat - 0x30 else b.toNat - 0x37

/-- The number that a text writes in hexadecimal. -/
def hexadecimal? (t : Text) : Option Nat :=
  if !t.bytes.isEmpty && t.bytes.all isHexByte then
    some (t.bytes.foldl (fun m x => m * 16 + hexValue x) 0)
  else none

/-- A number can be read back from its hexadecimal form. -/
lemma hexadecimal?_upper (n : Nat) :
    (ofChars ((Nat.toDigits 16 n).map Char.toUpper)).hexadecimal? = some n := by
  have h : Writes 16 isHexByte hexValue (ofChars ((Nat.toDigits 16 n).map Char.toUpper)).bytes n := by
    rw [ofChars, List.flatMap_map]
    refine writes_toDigits (by decide) (fun d hd => ?_) n
    interval_cases d <;> exact ⟨_, rfl, by decide, by decide⟩
  have hne : (ofChars ((Nat.toDigits 16 n).map Char.toUpper)).bytes.isEmpty = false := by
    simpa using h.ne_nil
  rw [hexadecimal?, hne, h.digits]
  exact congrArg some h.value_eq

end Text

/-! ### Constants -/

namespace Llvm

/-- The number that a constant of a module writes. -/
def constantOfText? (t : Text) : Option Int :=
  match t.dropStart? "-" with
  | some digits => digits.decimal?.map fun n : Nat => -(n : Int)
  | none =>
    match t.dropStart? "u0x" with
    | some digits => digits.hexadecimal?.map Int.ofNat
    | none => t.decimal?.map Int.ofNat

/-- The word that a constant of a module stands for: the number that is written, modulo 2 ^ 32. -/
def wordOfText? (t : Text) : Option UInt32 := (constantOfText? t).map UInt32.ofInt

lemma constantOfText?_ofNat (n : Nat) : constantOfText? (Text.ofNat n) = some (n : Int) := by
  have hminus : (Text.ofNat n).dropStart? "-" = none := Text.dropStart?_ofNat rfl (by decide) n
  have hhex : (Text.ofNat n).dropStart? "u0x" = none := Text.dropStart?_ofNat rfl (by decide) n
  simp [constantOfText?, hminus, hhex]

/-- A constant can be read back from its text, in whichever form it is written. -/
theorem constantOfText?_constant (n : Int) : constantOfText? (constant n) = some n := by
  cases n with
  | ofNat n =>
    have hpos : ¬ Int.ofNat n < 0 := by simp
    rw [constant, if_neg hpos]
    split
    · -- hexadecimal: the text starts with `u`, so it is not taken for a negative number
      have hminus : ("u0x" ++ Text.ofChars ((Nat.toDigits 16 n).map Char.toUpper) : Text).dropStart?
          "-" = none := rfl
      simp only [constantOfText?, Int.ofNat_eq_natCast, Int.toNat_natCast, hminus,
        Text.dropStart?_append, Text.hexadecimal?_upper, Option.map_some]
    · exact constantOfText?_ofNat n
  | negSucc n =>
    have hneg : Int.negSucc n < 0 := by omega
    rw [constant, if_pos hneg]
    simp only [constantOfText?, Text.ofInt, Text.dropStart?_append, Text.decimal?_ofNat,
      Option.map_some, Option.some.injEq]
    omega

/-- The signed form of a word denotes the same 32 bits. -/
lemma ofInt_signed (n : UInt32) : UInt32.ofInt (signed n) = n := by
  have hlt : n.toNat < 2 ^ 32 := n.toNat_lt
  apply UInt32.toNat.inj
  rw [UInt32.ofInt, UInt32.toNat_ofNat', signed]
  split <;> omega

/-- **A constant operand is read back as the word it was made from.** -/
theorem wordOfText?_text_const (n : UInt32) : wordOfText? (Word.text (.const n)) = some n := by
  rw [wordOfText?, Word.text, constantOfText?_constant, Option.map_some, ofInt_signed]

end Llvm

end LetScript
