import LetScript.Text.Utf8

/-!
# The characters of a YAML text

A YAML text is UTF-8 or, behind a byte order mark, UTF-16.  It may contain no control characters
besides tab, line feed, carriage return and U+0085, so NUL can stand for the end of the text.
-/

namespace LetScript.Yaml

/-! ## Classes of characters -/

/-- The end of the text. -/
def endChar : Char := '\x00'

/-- A space or a tab. -/
def isBlank (c : Char) : Bool := c = ' ' || c = '\t'

/-- A character that ends a line. -/
def isBreak (c : Char) : Bool :=
  c = '\r' || c = '\n' || c = '\u0085' || c = '\u2028' || c = '\u2029'

/-- A line break, or the end of the text. -/
def isBreakEnd (c : Char) : Bool := isBreak c || c = endChar

/-- A blank, a line break, or the end of the text. -/
def isBlankEnd (c : Char) : Bool := isBlank c || isBreakEnd c

/-- A character of a name: a letter, a digit, `_` or `-` of ASCII. -/
def isNameChar (c : Char) : Bool := c.isAlphanum || c = '_' || c = '-'

/-! ## From bytes to characters -/

/-- Whether a character may stand in a YAML text. -/
def isAllowed (c : Char) : Bool :=
  let n := c.toNat
  n = 0x09 || n = 0x0A || n = 0x0D || (0x20 ≤ n && n ≤ 0x7E) || n = 0x85
    || (0xA0 ≤ n && n ≤ 0xD7FF) || (0xE000 ≤ n && n ≤ 0xFFFD) || 0x10000 ≤ n

/-- The 16-bit units of some bytes; an odd byte at the end is no unit. -/
def units (bigEndian : Bool) : List UInt8 → Option (List Nat)
  | [] => some []
  | [_] => none
  | a :: b :: rest =>
    let unit := if bigEndian then a.toNat * 256 + b.toNat else b.toNat * 256 + a.toNat
    (units bigEndian rest).map (unit :: ·)

/-- The characters of some 16-bit units, in which surrogates come in pairs. -/
def charsOfUnits : List Nat → Option (List Char)
  | [] => some []
  | u :: rest =>
    if u < 0xD800 || 0xE000 ≤ u then (charsOfUnits rest).map (Char.ofNat u :: ·)
    else if 0xDC00 ≤ u then none
    else
      match rest with
      | v :: rest' =>
        if 0xDC00 ≤ v && v < 0xE000 then
          (charsOfUnits rest').map
            (Char.ofNat (0x10000 + (u - 0xD800) * 0x400 + (v - 0xDC00)) :: ·)
        else none
      | [] => none

/-- The characters of a text, whatever its encoding is. -/
def decodeBytes (t : Text) : Option (List Char) :=
  match t.bytes with
  | 0xFF :: 0xFE :: rest => (units false rest).bind charsOfUnits
  | 0xFE :: 0xFF :: rest => (units true rest).bind charsOfUnits
  | 0xEF :: 0xBB :: 0xBF :: rest => Text.chars? ⟨rest⟩
  | _ => t.chars?

/-- The characters of a YAML text. -/
def charsOf? (t : Text) : Option (List Char) :=
  (decodeBytes t).bind fun cs => if cs.all isAllowed then some cs else none

/-! ## Places -/

/-- A place in a text; all counts start at zero. -/
structure Mark where
  /-- The number of characters before it. -/
  index : Nat := 0
  /-- The number of lines before it. -/
  line : Nat := 0
  /-- The number of characters before it on its line. -/
  column : Nat := 0

/-- A text that is being read. -/
structure Source where
  /-- The characters not yet read. -/
  rest : List Char
  /-- The place of the first of them. -/
  mark : Mark := {}
  /-- Whether a line break has been read behind the last character that is no blank. -/
  broken : Bool := false

namespace Source

/-- The character some places ahead. -/
def ahead (s : Source) (n : Nat) : Char := s.rest.getD n endChar

/-- The next character. -/
def peek (s : Source) : Char := s.ahead 0

/-- Move over characters that are no line breaks. -/
def move (s : Source) (n : Nat) : Source :=
  let run := s.rest.take n
  { rest := s.rest.drop n
    mark := { s.mark with index := s.mark.index + n, column := s.mark.column + n }
    broken := s.broken && run.all isBlank }

/-- Move over a line break, of which a carriage return with a line feed is one. -/
def moveBreak (s : Source) : Source :=
  match s.rest with
  | '\r' :: '\n' :: rest => ⟨rest, ⟨s.mark.index + 2, s.mark.line + 1, 0⟩, true⟩
  | c :: rest => if isBreak c then ⟨rest, ⟨s.mark.index + 1, s.mark.line + 1, 0⟩, true⟩ else s
  | [] => s

/-- The line break at a place, as a scalar keeps it. -/
def breakText (s : Source) : List Char :=
  match s.rest with
  | c :: _ => if c = '\u2028' || c = '\u2029' then [c] else if isBreak c then ['\n'] else []
  | [] => []

/-- The characters up to the first that a test refuses. -/
def spanOf (s : Source) (p : Char → Bool) : List Char := s.rest.takeWhile p

/-- Move over the characters up to the first that a test refuses. -/
def moveWhile (s : Source) (p : Char → Bool) : Source := s.move (s.spanOf p).length

/-- Move to the end of the line. -/
def toLineEnd (s : Source) : Source := s.moveWhile (!isBreakEnd ·)

/-- Whether a line begins here with three copies of `c` that stand alone. -/
def atTriple (s : Source) (c : Char) : Bool :=
  s.mark.column = 0 && s.peek = c && s.ahead 1 = c && s.ahead 2 = c && isBlankEnd (s.ahead 3)

/-- Whether a document begins or ends here. -/
def atDocumentMark (s : Source) : Bool := s.atTriple '-' || s.atTriple '.'

end Source

/-- Why a YAML text cannot be read.  Only the fact is reported. -/
inductive SyntaxError where
  /-- The text is not YAML. -/
  | malformed
deriving DecidableEq

/-- The answer of a reader for a text that is not YAML. -/
def malformed {α : Type} : Except SyntaxError α := .error .malformed

end LetScript.Yaml
