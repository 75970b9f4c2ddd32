import LetScript.Text.Utf8
import LetScript.Text.Printable

/-!
# Quoted texts

The quoted form of a text stands on one line between double quotes.  Printable characters stand
for themselves, quote and backslash behind a backslash; the usual control characters have a
letter; whatever else there is, a stray byte included, is written with hexadecimal digits.
-/

namespace LetScript

namespace Text

/-- The last `width` hexadecimal digits of a number, in lower case. -/
def hexDigits : (width : Nat) → Nat → List Char
  | 0, _ => []
  | width + 1, n => hexDigits width (n / 16) ++ [Nat.digitChar (n % 16)]

/-- The letter behind the backslash for a control character that has one. -/
def escapeLetter? (c : Char) : Option Char :=
  match c.toNat with
  | 0x07 => some 'a'
  | 0x08 => some 'b'
  | 0x09 => some 't'
  | 0x0A => some 'n'
  | 0x0B => some 'v'
  | 0x0C => some 'f'
  | 0x0D => some 'r'
  | _ => none

/-- A character as it stands between the quotes. -/
def quoteChar (c : Char) : List Char :=
  if c = '"' || c = '\\' then ['\\', c]
  else if isPrintable c then [c]
  else
    match escapeLetter? c with
    | some l => ['\\', l]
    | none =>
      if c.toNat < 0x80 then '\\' :: 'x' :: hexDigits 2 c.toNat
      else if c.toNat < 0x10000 then '\\' :: 'u' :: hexDigits 4 c.toNat
      else '\\' :: 'U' :: hexDigits 8 c.toNat

/-- A piece of a text as it stands between the quotes. -/
def quotePiece : Piece → List Char
  | .char c => quoteChar c
  | .stray b => '\\' :: 'x' :: hexDigits 2 b.toNat

/-- The characters of the quoted form. -/
def quotedChars (t : Text) : List Char := '"' :: t.pieces.flatMap quotePiece ++ ['"']

/-- The quoted form of a text. -/
def quoted (t : Text) : Text := ofChars t.quotedChars

end Text

end LetScript
