import LetScript.Text.Utf8

/-!
# White space

The white space that separates lexemes and words: the ASCII control characters from tab to
carriage return, the space, and the blanks of Unicode.
-/

namespace LetScript

/-- Whether a character is white space. -/
def isBlank (c : Char) : Bool :=
  let n := c.toNat
  (0x09 ≤ n && n ≤ 0x0D) || n = 0x20 || n = 0x85 || n = 0xA0 || n = 0x1680
    || (0x2000 ≤ n && n ≤ 0x200A) || n = 0x2028 || n = 0x2029 || n = 0x202F || n = 0x205F
    || n = 0x3000

/-- Whether a piece of a text is white space. -/
def Piece.isBlank (p : Piece) : Bool := LetScript.isBlank p.toChar

namespace Text

/-- The maximal runs of pieces without white space. -/
def splitBlanks : List Piece → List (List Piece)
  | [] => []
  | p :: rest =>
    if p.isBlank then splitBlanks rest
    else
      (p :: rest.takeWhile (!·.isBlank)) :: splitBlanks (rest.dropWhile (!·.isBlank))
termination_by ps => ps.length
decreasing_by
  · simp
  · have := (List.dropWhile_sublist (l := rest) (!·.isBlank)).length_le
    simp; omega

/-- The words of a text: its maximal runs without white space. -/
def words (t : Text) : List Text := (splitBlanks t.pieces).map ofPieces

end Text

end LetScript
