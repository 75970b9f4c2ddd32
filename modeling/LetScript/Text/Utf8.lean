import LetScript.Text.Basic

/-!
# Reading UTF-8

The characters of a text are read from the left.  A byte that does not begin a well-formed
sequence is *stray*: it stands for itself, and the reading goes on with the byte after it.  So
a sequence that is cut short, overlong, or the form of a surrogate yields one stray byte for
each of its bytes.
-/

namespace LetScript

/-- What stands at one place of a text: a character, or a byte that is part of none. -/
inductive Piece where
  /-- A character that is encoded well. -/
  | char (c : Char)
  /-- A byte that begins no well-formed sequence. -/
  | stray (b : UInt8)
deriving DecidableEq

namespace Piece

/-- The bytes of a piece. -/
def bytes : Piece → List UInt8
  | char c => String.utf8EncodeChar c
  | stray b => [b]

/-- The character shown for a piece: a stray byte shows as U+FFFD. -/
def toChar : Piece → Char
  | char c => c
  | stray _ => '\uFFFD'

end Piece

namespace Text

/-- Whether a byte continues a sequence. -/
def isContinuation (b : UInt8) : Bool := 0x80 ≤ b && b ≤ 0xBF

/-- The least and the greatest second byte of a sequence of three or four bytes.  The bounds
leave out overlong forms, surrogates and what lies beyond U+10FFFF. -/
def secondBounds (first : UInt8) : UInt8 × UInt8 :=
  if first = 0xE0 then (0xA0, 0xBF)
  else if first = 0xED then (0x80, 0x9F)
  else if first = 0xF0 then (0x90, 0xBF)
  else if first = 0xF4 then (0x80, 0x8F)
  else (0x80, 0xBF)

/-- Whether `second` may follow `first` in a sequence of three or four bytes. -/
def followsFirst (first second : UInt8) : Bool :=
  (secondBounds first).1 ≤ second && second ≤ (secondBounds first).2

/-- The payload of a continuation byte. -/
def payload (b : UInt8) : Nat := b.toNat - 0x80

/-- The character that begins with `first`, and how many of the bytes behind `first` belong to
it. -/
def charAt? (first : UInt8) (rest : List UInt8) : Option (Char × Nat) :=
  if first < 0x80 then some (Char.ofNat first.toNat, 0)
  else if first < 0xC2 then none
  else if first < 0xE0 then
    match rest with
    | b :: _ =>
      if isContinuation b then
        some (Char.ofNat ((first.toNat - 0xC0) * 0x40 + payload b), 1)
      else none
    | [] => none
  else if first < 0xF0 then
    match rest with
    | b :: c :: _ =>
      if followsFirst first b && isContinuation c then
        some (Char.ofNat (((first.toNat - 0xE0) * 0x40 + payload b) * 0x40 + payload c), 2)
      else none
    | _ => none
  else if first < 0xF5 then
    match rest with
    | b :: c :: d :: _ =>
      if followsFirst first b && isContinuation c && isContinuation d then
        some (Char.ofNat
          ((((first.toNat - 0xF0) * 0x40 + payload b) * 0x40 + payload c) * 0x40 + payload d), 3)
      else none
    | _ => none
  else none

/-- The pieces of a list of bytes, of which the first `skip` belong to a piece read before. -/
def piecesFrom : (skip : Nat) → List UInt8 → List Piece
  | _, [] => []
  | skip + 1, _ :: rest => piecesFrom skip rest
  | 0, b :: rest =>
    match charAt? b rest with
    | some (c, more) => .char c :: piecesFrom more rest
    | none => .stray b :: piecesFrom 0 rest

/-- The pieces of a text, in order. -/
def pieces (t : Text) : List Piece := piecesFrom 0 t.bytes

/-- The text of a list of pieces. -/
def ofPieces (ps : List Piece) : Text := ⟨ps.flatMap Piece.bytes⟩

/-- The characters of a text; each stray byte counts as one U+FFFD. -/
def chars (t : Text) : List Char := t.pieces.map Piece.toChar

/-- The characters of a text without stray bytes. -/
def chars? (t : Text) : Option (List Char) :=
  t.pieces.mapM fun
    | .char c => some c
    | .stray _ => none

/-- The text as a string, when it is well-formed UTF-8. -/
def toString? (t : Text) : Option String := t.chars?.map String.ofList

end Text

end LetScript
