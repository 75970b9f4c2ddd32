import LetScript.Yaml.Source

/-!
# Scalars of YAML

A scalar is plain, quoted, or a block.  Line breaks inside plain and quoted scalars fold: a single
one becomes a blank, and of several the first disappears.
-/

namespace LetScript.Yaml

/-! ## Gaps between words -/

/-- Blanks and line breaks between two words of a scalar. -/
structure Gap where
  /-- The blanks before the first line break. -/
  blanks : List Char := []
  /-- The first line break. -/
  first : List Char := []
  /-- The other line breaks. -/
  others : List Char := []
  /-- Whether there is a line break, or an escaped one. -/
  broken : Bool := false

/-- What a gap stands for. -/
def Gap.text (g : Gap) : List Char :=
  if g.broken then
    if g.first = ['\n'] then
      if g.others.isEmpty then [' '] else g.others
    else g.first ++ g.others
  else g.blanks

/-- Read on in a gap.  With `indent`, no tab may stand before that column behind a line break. -/
def readGap (indent : Option Nat) : (fuel : Nat) → Gap → Source → Except SyntaxError (Gap × Source)
  | 0, g, s => .ok (g, s)
  | fuel + 1, g, s =>
    if isBlank s.peek then
      if g.broken && s.peek = '\t' && indent.any (s.mark.column < ·) then malformed
      else if g.broken then readGap indent fuel g (s.move 1)
      else readGap indent fuel { g with blanks := g.blanks ++ [s.peek] } (s.move 1)
    else if isBreak s.peek then
      if g.broken then
        readGap indent fuel { g with others := g.others ++ s.breakText } s.moveBreak
      else readGap indent fuel { g with blanks := [], first := s.breakText, broken := true } s.moveBreak
    else .ok (g, s)

/-! ## Plain scalars -/

/-- The number of characters of the word at the beginning of a plain scalar. -/
def plainWordLength (flow : Bool) : List Char → Nat
  | [] => 0
  | c :: rest =>
    if isBlankEnd c then 0
    else if c = ':' && isBlankEnd (rest.headD endChar) then 0
    else if flow && [',', '?', '[', ']', '\x7b', '\x7d'].contains c then 0
    else plainWordLength flow rest + 1

/-- The rest of a plain scalar behind some text and a gap.  The answer says whether the scalar is
followed by a line break that has been read. -/
def readPlain (flow : Bool) (indent : Nat) :
    (fuel : Nat) → List Char → Gap → Source → Except SyntaxError (List Char × Bool × Source)
  | 0, text, g, s => .ok (text, g.broken, s)
  | fuel + 1, text, g, s =>
    if s.atDocumentMark || s.peek = '#' then .ok (text, g.broken, s)
    else
      let n := plainWordLength flow s.rest
      let (text, g) := if n = 0 then (text, g) else (text ++ g.text ++ s.rest.take n, {})
      let s := s.move n
      if !(isBlank s.peek || isBreak s.peek) then .ok (text, g.broken, s)
      else do
        let (g, s) ← readGap (some indent) s.rest.length g s
        if !flow && s.mark.column < indent then .ok (text, g.broken, s)
        else readPlain flow indent fuel text g s

/-! ## Quoted scalars -/

/-- The character for an escape of one letter. -/
def escapedChar? : Char → Option Char
  | '0' => some '\x00'
  | 'a' => some '\x07'
  | 'b' => some '\x08'
  | 't' => some '\t'
  | '\t' => some '\t'
  | 'n' => some '\n'
  | 'v' => some '\x0b'
  | 'f' => some '\x0c'
  | 'r' => some '\r'
  | 'e' => some '\x1b'
  | ' ' => some ' '
  | '"' => some '"'
  | '\'' => some '\''
  | '\\' => some '\\'
  | 'N' => some '\u0085'
  | '_' => some '\u00a0'
  | 'L' => some '\u2028'
  | 'P' => some '\u2029'
  | _ => none

/-- The number of hexadecimal digits behind an escape. -/
def escapeWidth? : Char → Option Nat
  | 'x' => some 2
  | 'u' => some 4
  | 'U' => some 8
  | _ => none

/-- The value of a hexadecimal digit. -/
def hexValue? (c : Char) : Option Nat :=
  if '0' ≤ c && c ≤ '9' then some (c.toNat - '0'.toNat)
  else if 'a' ≤ c && c ≤ 'f' then some (c.toNat - 'a'.toNat + 10)
  else if 'A' ≤ c && c ≤ 'F' then some (c.toNat - 'A'.toNat + 10)
  else none

/-- The number written by some hexadecimal digits. -/
def hexNumber? (digits : List Char) : Option Nat :=
  digits.foldl (fun n c => n.bind fun n => (hexValue? c).map (n * 16 + ·)) (some 0)

/-- The escape behind a backslash: its character and its length. -/
def readEscape (rest : List Char) : Except SyntaxError (Char × Nat) :=
  match rest with
  | [] => malformed
  | c :: digits =>
    match escapedChar? c with
    | some d => .ok (d, 1)
    | none =>
      match escapeWidth? c with
      | none => malformed
      | some width =>
        if digits.length < width then malformed
        else
          match hexNumber? (digits.take width) with
          | none => malformed
          | some n => if n.isValidChar then .ok (Char.ofNat n, width + 1) else malformed

/-- The word at the beginning of a quoted scalar, behind some text.  The answer says whether the
word ends with an escaped line break. -/
def readQuotedWord (single : Bool) :
    (fuel : Nat) → List Char → Source → Except SyntaxError (List Char × Bool × Source)
  | 0, text, s => .ok (text, false, s)
  | fuel + 1, text, s =>
    let c := s.peek
    if isBlankEnd c then .ok (text, false, s)
    else if single then
      if c = '\'' then
        if s.ahead 1 = '\'' then readQuotedWord single fuel (text ++ [c]) (s.move 2)
        else .ok (text, false, s)
      else readQuotedWord single fuel (text ++ [c]) (s.move 1)
    else if c = '"' then .ok (text, false, s)
    else if c = '\\' then
      if isBreak (s.ahead 1) then .ok (text, true, (s.move 1).moveBreak)
      else do
        let (d, n) ← readEscape (s.rest.drop 1)
        readQuotedWord single fuel (text ++ [d]) (s.move (n + 1))
    else readQuotedWord single fuel (text ++ [c]) (s.move 1)

/-- The rest of a quoted scalar, and the source behind its closing quote. -/
def readQuoted (single : Bool) :
    (fuel : Nat) → List Char → Source → Except SyntaxError (List Char × Source)
  | 0, _, _ => malformed
  | fuel + 1, text, s =>
    if s.atDocumentMark || s.peek = endChar then malformed
    else do
      let (text, escaped, s) ← readQuotedWord single s.rest.length text s
      if s.peek = (if single then '\'' else '"') then .ok (text, s.move 1)
      else
        let (g, s) ← readGap none s.rest.length { broken := escaped } s
        readQuoted single fuel (text ++ g.text) s

/-! ## Block scalars -/

/-- What happens to the line breaks at the end of a block. -/
inductive Chomping where
  /-- All of them disappear. -/
  | strip
  /-- One of them is kept. -/
  | clip
  /-- All of them are kept. -/
  | keep
deriving DecidableEq

/-- The chomping that a character asks for. -/
def Chomping.ofChar? : Char → Option Chomping
  | '+' => some keep
  | '-' => some strip
  | _ => none

/-- An indentation of one digit, zero excluded; no digit means that none is given. -/
def readIncrement (s : Source) : Except SyntaxError (Nat × Source) :=
  if s.peek.isDigit then
    if s.peek = '0' then malformed else .ok (s.peek.toNat - '0'.toNat, s.move 1)
  else .ok (0, s)

/-- The header of a block, behind its indicator: chomping and indentation, in either order. -/
def readBlockHeader (s : Source) : Except SyntaxError (Chomping × Nat × Source) :=
  match Chomping.ofChar? s.peek with
  | some ch => do
    let (n, s) ← readIncrement (s.move 1)
    return (ch, n, s)
  | none => do
    let (n, s) ← readIncrement s
    match Chomping.ofChar? s.peek with
    | some ch => return (ch, n, s.move 1)
    | none => return (.clip, n, s)

/-- Move over empty lines and indentation: the line breaks, and the largest column reached.  An
`indent` of zero is not yet known. -/
def readBlockBreaks (indent : Nat) :
    (fuel : Nat) → Nat → List Char → Source → Except SyntaxError (Nat × List Char × Source)
  | 0, widest, breaks, s => .ok (widest, breaks, s)
  | fuel + 1, widest, breaks, s =>
    let blanks := (s.spanOf (· = ' ')).length
    let s := s.move (if indent = 0 then blanks else min blanks (indent - s.mark.column))
    let widest := max widest s.mark.column
    if (indent = 0 || s.mark.column < indent) && s.peek = '\t' then malformed
    else if isBreak s.peek then
      readBlockBreaks indent fuel widest (breaks ++ s.breakText) s.moveBreak
    else .ok (widest, breaks, s)

/-- The lines of a block: the text, the last line break, and the line breaks behind it. -/
structure Block where
  /-- The text so far. -/
  text : List Char := []
  /-- The line break behind the last line. -/
  last : List Char := []
  /-- The line breaks of the empty lines behind it. -/
  breaks : List Char := []
  /-- Whether the last line begins with a blank. -/
  indented : Bool := false

/-- The text of a block after chomping. -/
def Block.chomp (b : Block) : Chomping → List Char
  | .strip => b.text
  | .clip => b.text ++ b.last
  | .keep => b.text ++ b.last ++ b.breaks

/-- Read the lines of a block with a known indentation. -/
def readBlockLines (literal : Bool) (indent : Nat) :
    (fuel : Nat) → Block → Source → Except SyntaxError (Block × Source)
  | 0, b, s => .ok (b, s)
  | fuel + 1, b, s =>
    if s.mark.column ≠ indent || s.peek = endChar then .ok (b, s)
    else do
      let indented := isBlank s.peek
      let joint :=
        if !literal && !b.indented && !indented && b.last = ['\n'] then
          if b.breaks.isEmpty then [' '] else []
        else b.last
      let line := s.spanOf (!isBreakEnd ·)
      let text := b.text ++ joint ++ b.breaks ++ line
      let s := s.move line.length
      let last := s.breakText
      let (_, breaks, s) ← readBlockBreaks indent s.rest.length 0 [] s.moveBreak
      readBlockLines literal indent fuel ⟨text, last, breaks, indented⟩ s

/-- Read a block behind its indicator, inside a collection that is indented by `parent`, if there
is one. -/
def readBlock (literal : Bool) (parent : Option Nat) (s : Source) :
    Except SyntaxError (List Char × Source) := do
  let (chomping, increment, s) ← readBlockHeader s
  let s := s.moveWhile isBlank
  let s := if s.peek = '#' then s.toLineEnd else s
  if !isBreakEnd s.peek then malformed
  else
    let s := s.moveBreak
    let given := if increment = 0 then 0 else parent.getD 0 + increment
    let (widest, breaks, s) ← readBlockBreaks given s.rest.length 0 [] s
    let least := match parent with
      | some n => n + 1
      | none => 1
    let indent := if given = 0 then max widest least else given
    let (b, s) ← readBlockLines literal indent s.rest.length { breaks } s
    return (b.chomp chomping, s)

end LetScript.Yaml
