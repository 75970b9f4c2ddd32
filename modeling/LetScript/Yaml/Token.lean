import LetScript.Yaml.Scalar

/-!
# Tokens of YAML

The structure of a YAML text lies in its indentation and in its indicators.  Reading it into
tokens makes all of it explicit: where collections begin and end, and what is a key.  A key is
often recognised only by the `:` behind it, so the places where a key may have begun are
remembered, one for each level of brackets.
-/

namespace LetScript.Yaml

/-- What a token is. -/
inductive TokenKind where
  /-- The beginning of the text. -/
  | streamStart
  /-- The end of the text. -/
  | streamEnd
  /-- A version directive. -/
  | version (major minor : Nat)
  /-- A directive that says what a tag handle stands for. -/
  | tagHandle (handle expansion : List Char)
  /-- The mark `---`. -/
  | documentStart
  /-- The mark `...`. -/
  | documentEnd
  /-- The beginning of an indented sequence. -/
  | sequenceStart
  /-- The beginning of an indented mapping. -/
  | mappingStart
  /-- The end of an indented collection. -/
  | blockEnd
  /-- The sign `[`. -/
  | flowSequenceStart
  /-- The sign `]`. -/
  | flowSequenceEnd
  /-- An opening brace. -/
  | flowMappingStart
  /-- A closing brace. -/
  | flowMappingEnd
  /-- The sign `-` in front of an item. -/
  | blockEntry
  /-- The sign `,` behind an item. -/
  | flowEntry
  /-- The beginning of a key. -/
  | key
  /-- The beginning of the value of a key. -/
  | value
  /-- The repetition of an anchored node. -/
  | aliased (name : List Char)
  /-- The name of a node. -/
  | anchor (name : List Char)
  /-- The tag of a node. -/
  | tag (handle suffix : List Char)
  /-- A scalar. -/
  | scalar (text : List Char) (plain : Bool)
deriving DecidableEq

/-- A token and the line where it begins. -/
structure Token where
  /-- What it is. -/
  kind : TokenKind
  /-- Its line, counted from zero. -/
  line : Nat

/-- A place where a key may have begun. -/
structure KeyStart where
  /-- The number of tokens before it. -/
  number : Nat
  /-- Whether nothing but a key can begin there. -/
  required : Bool
  /-- The place. -/
  mark : Mark

/-- What has been read of a text, and the state of its layout. -/
structure Layout where
  /-- What has not been read. -/
  source : Source
  /-- The tokens so far. -/
  tokens : List Token := [⟨.streamStart, 0⟩]
  /-- The column of the innermost indented collection. -/
  indent : Option Nat := none
  /-- The columns of the collections around it. -/
  outer : List (Option Nat) := []
  /-- Where a key may have begun, for each level of brackets, the innermost first. -/
  keys : List (Option KeyStart) := [none]
  /-- Whether a key may begin here. -/
  keyAllowed : Bool := true
  /-- Whether the end of the text has been read. -/
  finished : Bool := false

namespace Layout

/-- Whether the place is outside all brackets. -/
def inBlock (l : Layout) : Bool := l.keys.length ≤ 1

/-- The place reached. -/
def mark (l : Layout) : Mark := l.source.mark

/-- Append a token that begins on a line. -/
def emit (l : Layout) (kind : TokenKind) (line : Nat) : Layout :=
  { l with tokens := l.tokens ++ [⟨kind, line⟩] }

/-- Append a token of some characters, which begins here. -/
def take (l : Layout) (kind : TokenKind) (n : Nat) : Layout :=
  { l.emit kind l.mark.line with source := l.source.move n }

/-! ## Keys -/

/-- Whether a key that began at a place can end here: on the same line, and not too far away. -/
def reaches (l : Layout) (k : KeyStart) : Bool :=
  k.mark.line = l.mark.line && l.mark.index ≤ k.mark.index + 1024

/-- Forget where a key may have begun on this level. -/
def dropKey (l : Layout) : Except SyntaxError Layout :=
  match l.keys with
  | some k :: rest => if k.required then malformed else .ok { l with keys := none :: rest }
  | _ => .ok l

/-- Remember that a key may begin here. -/
def saveKey (l : Layout) : Except SyntaxError Layout :=
  if l.keyAllowed then do
    let k : KeyStart := ⟨l.tokens.length, l.inBlock && l.indent = some l.mark.column, l.mark⟩
    let l ← l.dropKey
    return { l with keys := some k :: l.keys.drop 1 }
  else .ok l

/-- The beginning of the key that ends here, if there is one. -/
def currentKey? (l : Layout) : Except SyntaxError (Option KeyStart) :=
  match l.keys with
  | some k :: _ =>
    if l.reaches k then .ok (some k) else if k.required then malformed else .ok none
  | _ => .ok none

/-! ## Indentation -/

/-- Open a collection at a column that is further in than the current one, in front of the token
with a given number. -/
def openBlock (l : Layout) (column number : Nat) (kind : TokenKind) (line : Nat) : Layout :=
  if l.inBlock && l.indent.all (· < column) then
    { l with
      tokens := l.tokens.take number ++ ⟨kind, line⟩ :: l.tokens.drop number
      indent := some column
      outer := l.indent :: l.outer }
  else l

/-- Leave levels of indentation while a test holds: how many, and what remains. -/
def leave (p : Option Nat → Bool) :
    Option Nat → List (Option Nat) → Nat × Option Nat × List (Option Nat)
  | indent, [] => (0, indent, [])
  | indent, o :: outer =>
    if p indent then
      let (n, rest) := leave p o outer
      (n + 1, rest)
    else (0, indent, o :: outer)

/-- Close all collections that are further in than a column; without a column, all. -/
def closeBlocks (l : Layout) (column : Option Nat) : Layout :=
  if l.inBlock then
    let further (i : Option Nat) : Bool := i.any fun i => column.all (· < i)
    let (n, indent, outer) := leave further l.indent l.outer
    { l with
      tokens := l.tokens ++ List.replicate n ⟨.blockEnd, l.mark.line⟩
      indent
      outer }
  else l

/-! ## Blanks and comments -/

/-- Move over blanks and line breaks. -/
def moveGap : (fuel : Nat) → Source → Source
  | 0, s => s
  | fuel + 1, s =>
    if isBlank s.peek then moveGap fuel (s.move 1)
    else if isBreak s.peek then moveGap fuel s.moveBreak
    else s

/-- Move over a comment and the comments on the lines behind it. -/
def moveComments : (fuel : Nat) → Source → Source
  | 0, s => s
  | fuel + 1, s =>
    let s := s.toLineEnd
    let behind := s.rest.dropWhile fun c => isBlank c || c = '\r' || c = '\n'
    if behind.headD endChar = '#' then moveComments fuel (moveGap s.rest.length s) else s

/-- Move to the next token.  A tab may not stand where a key may begin, and a line break outside
brackets lets a key begin. -/
def toNextToken : (fuel : Nat) → Layout → Layout
  | 0, l => l
  | fuel + 1, l =>
    let tabs := !l.inBlock || !l.keyAllowed
    let s := l.source.moveWhile fun c => c = ' ' || (tabs && c = '\t')
    let s := if s.peek = '#' then moveComments s.rest.length s else s
    if isBreak s.peek then
      toNextToken fuel
        { l with source := s.moveBreak, keyAllowed := l.inBlock || l.keyAllowed }
    else { l with source := s }

/-- Move over a comment on the line of the last token. -/
def moveLineComment (l : Layout) : Layout :=
  if l.source.broken || (l.tokens.getLast?.map Token.kind) = some .blockEntry then l
  else
    let s := l.source.moveWhile isBlank
    if s.peek = '#' then { l with source := s.toLineEnd } else l

/-! ## Directives -/

/-- Move over the rest of the line of a directive. -/
def endDirective (s : Source) : Except SyntaxError Source :=
  let s := s.moveWhile isBlank
  let s := if s.peek = '#' then s.toLineEnd else s
  if isBreakEnd s.peek then .ok s.moveBreak else malformed

/-- A number of at most nine digits. -/
def readVersionNumber (s : Source) : Except SyntaxError (Nat × Source) :=
  let digits := s.spanOf Char.isDigit
  if digits.isEmpty || 9 < digits.length then malformed
  else .ok (digits.foldl (fun n c => n * 10 + (c.toNat - '0'.toNat)) 0, s.move digits.length)

/-- Whether a character may stand in the suffix of a tag. -/
def isTagChar (c : Char) : Bool :=
  isNameChar c || ";/?:@&=+$,.!~*'()[]%".toList.contains c

/-- The bytes of a run of percent escapes, and what follows it. -/
def percentBytes : List Char → List UInt8 × List Char
  | '%' :: a :: b :: rest =>
    match hexValue? a, hexValue? b with
    | some m, some n =>
      let (bytes, rest) := percentBytes rest
      (UInt8.ofNat (m * 16 + n) :: bytes, rest)
    | _, _ => ([], '%' :: a :: b :: rest)
  | rest => ([], rest)

/-- The characters that the suffix of a tag stands for. -/
def unescapeTag : (fuel : Nat) → List Char → Except SyntaxError (List Char)
  | 0, _ => .ok []
  | _ + 1, [] => .ok []
  | fuel + 1, c :: rest =>
    if c = '%' then
      match percentBytes (c :: rest) with
      | ([], _) => malformed
      | (bytes, rest) =>
        match (Text.mk bytes).chars? with
        | none => malformed
        | some cs => do
          let more ← unescapeTag fuel rest
          return cs ++ more
    else do
      let more ← unescapeTag fuel rest
      return c :: more

/-- The suffix of a tag. -/
def readTagSuffix (s : Source) : Except SyntaxError (List Char × Source) := do
  let raw := s.spanOf isTagChar
  let suffix ← unescapeTag raw.length raw
  return (suffix, s.move raw.length)

/-- The beginning of a tag: `!`, a name, and perhaps another `!`. -/
def readHandle (s : Source) : List Char × Source :=
  let name := (s.move 1).spanOf isNameChar
  let handle := '!' :: name
  if s.ahead handle.length = '!' then (handle ++ ['!'], s.move (handle.length + 1))
  else (handle, s.move handle.length)

/-- A directive, behind its `%`. -/
def readDirective (s : Source) : Except SyntaxError (TokenKind × Source) := do
  let name := s.spanOf isNameChar
  let s := s.move name.length
  if name.isEmpty || !isBlankEnd s.peek then malformed
  else
    let s := s.moveWhile isBlank
    if name = ['Y', 'A', 'M', 'L'] then
      let (major, s) ← readVersionNumber s
      if s.peek ≠ '.' then malformed
      else
        let (minor, s) ← readVersionNumber (s.move 1)
        let s ← endDirective s
        return (.version major minor, s)
    else if name = ['T', 'A', 'G'] then
      if s.peek ≠ '!' then malformed
      else
        let (handle, s) := readHandle s
        if (handle.length > 1 && handle.getLast? ≠ some '!') || !isBlank s.peek then malformed
        else
          let s := s.moveWhile isBlank
          let (expansion, s) ← readTagSuffix s
          if expansion.isEmpty || !isBlankEnd s.peek then malformed
          else
            let s ← endDirective s
            return (.tagHandle handle expansion, s)
    else malformed

/-! ## Names and tags of nodes -/

/-- The name of an anchor or an alias, behind its sign. -/
def readAnchorName (s : Source) : Except SyntaxError (List Char × Source) :=
  let name := s.spanOf isNameChar
  let s := s.move name.length
  if name.isEmpty || !(isBlankEnd s.peek || "?:,]%@\x60\x7d".toList.contains s.peek) then malformed
  else .ok (name, s)

/-- The handle and the suffix of a tag that is written out between angle brackets; it has no
handle. -/
def readVerbatimTag (s : Source) : Except SyntaxError (TokenKind × Source) := do
  let (suffix, s) ← readTagSuffix (s.move 2)
  if suffix.isEmpty || s.peek ≠ '>' then malformed
  else return (.tag [] suffix, s.move 1)

/-- The handle and the suffix of a tag; a lone `!` is a suffix without a handle. -/
def readShortTag (s : Source) : Except SyntaxError (TokenKind × Source) := do
  let (handle, s) := readHandle s
  let (suffix, s) ← readTagSuffix s
  if handle.length > 1 && handle.getLast? = some '!' then
    if suffix.isEmpty then malformed else return (.tag handle suffix, s)
  else if (handle.drop 1 ++ suffix).isEmpty then return (.tag [] ['!'], s)
  else return (.tag ['!'] (handle.drop 1 ++ suffix), s)

/-- The tag of a node. -/
def readTag (s : Source) : Except SyntaxError (TokenKind × Source) := do
  let (kind, s) ← if s.ahead 1 = '<' then readVerbatimTag s else readShortTag s
  if isBlankEnd s.peek then return (kind, s) else malformed

/-! ## The next token -/

/-- The end of the text. -/
def readStreamEnd (l : Layout) : Except SyntaxError Layout := do
  let l ← (l.closeBlocks none).dropKey
  return { l.emit .streamEnd l.mark.line with finished := true, keyAllowed := false }

/-- A mark between documents. -/
def readDocumentMark (l : Layout) (kind : TokenKind) : Except SyntaxError Layout := do
  let l ← (l.closeBlocks none).dropKey
  return { l.take kind 3 with keyAllowed := false }

/-- A directive in front of a document. -/
def readDirectiveToken (l : Layout) : Except SyntaxError Layout := do
  let l ← (l.closeBlocks none).dropKey
  let (kind, s) ← readDirective (l.source.move 1)
  return { l.emit kind l.mark.line with source := s, keyAllowed := false }

/-- An opening bracket. -/
def readFlowStart (l : Layout) (kind : TokenKind) : Except SyntaxError Layout := do
  let l ← l.saveKey
  return { l.take kind 1 with keys := none :: l.keys, keyAllowed := true }

/-- A closing bracket. -/
def readFlowEnd (l : Layout) (kind : TokenKind) : Except SyntaxError Layout := do
  let l ← l.dropKey
  return { l.take kind 1 with
    keys := if l.inBlock then l.keys else l.keys.drop 1
    keyAllowed := false }

/-- A comma between brackets. -/
def readFlowEntry (l : Layout) : Except SyntaxError Layout := do
  let l ← l.dropKey
  return { l.take .flowEntry 1 with keyAllowed := true }

/-- The sign in front of an item. -/
def readBlockEntry (l : Layout) : Except SyntaxError Layout := do
  if l.inBlock && !l.keyAllowed then malformed
  else
    let l := l.openBlock l.mark.column l.tokens.length .sequenceStart l.mark.line
    let l ← l.dropKey
    return { l.take .blockEntry 1 with keyAllowed := true }

/-- The sign in front of a key. -/
def readKey (l : Layout) : Except SyntaxError Layout := do
  if l.inBlock && !l.keyAllowed then malformed
  else
    let l := l.openBlock l.mark.column l.tokens.length .mappingStart l.mark.line
    let l ← l.dropKey
    return { l.take .key 1 with keyAllowed := l.inBlock }

/-- The sign in front of a value: either a key ends here that began without a sign, or the key
had one. -/
def readValue (l : Layout) : Except SyntaxError Layout := do
  match ← l.currentKey? with
  | some k =>
    let key : Token := ⟨.key, k.mark.line⟩
    let l : Layout := { l with
      tokens := l.tokens.take k.number ++ key :: l.tokens.drop k.number
      keys := none :: l.keys.drop 1 }
    let l := l.openBlock k.mark.column k.number .mappingStart k.mark.line
    return { l.take .value 1 with keyAllowed := false }
  | none =>
    let l : Layout := { l with keys := none :: l.keys.drop 1 }
    if l.inBlock && !l.keyAllowed then malformed
    else
      let l := l.openBlock l.mark.column l.tokens.length .mappingStart l.mark.line
      return { l.take .value 1 with keyAllowed := l.inBlock }

/-- An anchor or an alias. -/
def readAnchor (l : Layout) (kind : List Char → TokenKind) : Except SyntaxError Layout := do
  let l ← l.saveKey
  let (name, s) ← readAnchorName (l.source.move 1)
  return { l.emit (kind name) l.mark.line with source := s, keyAllowed := false }

/-- A tag. -/
def readTagToken (l : Layout) : Except SyntaxError Layout := do
  let l ← l.saveKey
  let (kind, s) ← readTag l.source
  return { l.emit kind l.mark.line with source := s, keyAllowed := false }

/-- A block scalar. -/
def readBlockScalar (l : Layout) (literal : Bool) : Except SyntaxError Layout := do
  let l ← l.dropKey
  let (text, s) ← readBlock literal l.indent (l.source.move 1)
  return { l.emit (.scalar text false) l.mark.line with source := s, keyAllowed := true }

/-- A quoted scalar. -/
def readQuotedScalar (l : Layout) (single : Bool) : Except SyntaxError Layout := do
  let l ← l.saveKey
  let (text, s) ← readQuoted single (l.source.rest.length + 1) [] (l.source.move 1)
  return { l.emit (.scalar text false) l.mark.line with source := s, keyAllowed := false }

/-- A plain scalar. -/
def readPlainScalar (l : Layout) : Except SyntaxError Layout := do
  let l ← l.saveKey
  let indent := match l.indent with
    | some n => n + 1
    | none => 0
  let (text, broken, s) ← readPlain (!l.inBlock) indent (l.source.rest.length + 1) [] {} l.source
  return { l.emit (.scalar text true) l.mark.line with source := s, keyAllowed := broken }

/-- Whether a plain scalar may begin here. -/
def plainMayBegin (l : Layout) : Bool :=
  let c := l.source.peek
  let next := l.source.ahead 1
  !(isBlankEnd c || "-?:,[]#&*!|>'\"%@\x60\x7b\x7d".toList.contains c)
    || (c = '-' && !isBlank next)
    || (l.inBlock && (c = '?' || c = ':') && !isBlankEnd next)

/-- The token that begins here, which is neither a mark between documents nor a directive. -/
def readContent (l : Layout) : Except SyntaxError Layout :=
  let next := l.source.ahead 1
  let indicates := !l.inBlock || isBlankEnd next
  match l.source.peek with
  | '[' => l.readFlowStart .flowSequenceStart
  | '\x7b' => l.readFlowStart .flowMappingStart
  | ']' => l.readFlowEnd .flowSequenceEnd
  | '\x7d' => l.readFlowEnd .flowMappingEnd
  | ',' => l.readFlowEntry
  | '*' => l.readAnchor .aliased
  | '&' => l.readAnchor .anchor
  | '!' => l.readTagToken
  | '\'' => l.readQuotedScalar true
  | '"' => l.readQuotedScalar false
  | c =>
    if c = '-' && isBlankEnd next then l.readBlockEntry
    else if c = '?' && indicates then l.readKey
    else if c = ':' && indicates then l.readValue
    else if c = '|' && l.inBlock then l.readBlockScalar true
    else if c = '>' && l.inBlock then l.readBlockScalar false
    else if l.plainMayBegin then l.readPlainScalar
    else malformed

/-- Read the next token, with the tokens that the layout puts around it. -/
def next (l : Layout) : Except SyntaxError Layout :=
  let l := toNextToken (l.source.rest.length + 1) l
  let l := l.closeBlocks (some l.mark.column)
  if l.source.peek = endChar then l.readStreamEnd
  else if l.mark.column = 0 && l.source.peek = '%' then l.readDirectiveToken
  else if l.source.atTriple '-' then l.readDocumentMark .documentStart
  else if l.source.atTriple '.' then l.readDocumentMark .documentEnd
  else l.readContent.map moveLineComment

end Layout

/-! ## All tokens -/

/-- The tokens of a text, as far as it could be read. -/
structure Tokens where
  /-- The tokens. -/
  list : List Token
  /-- Whether the text could not be read behind them. -/
  failed : Bool
  /-- The numbers of the tokens that were still waiting to become keys when reading failed. -/
  waiting : List Nat := []

/-- Read on to the end of the text. -/
def Layout.readAll : (fuel : Nat) → Layout → Tokens
  | 0, l => ⟨l.tokens, true, []⟩
  | fuel + 1, l =>
    if l.finished then ⟨l.tokens, false, []⟩
    else
      match l.next with
      | .ok l' => readAll fuel l'
      | .error _ =>
        ⟨l.tokens, true, (l.keys.filterMap id).filterMap fun k =>
          if l.reaches k || k.required then some k.number else none⟩

/-- The tokens of a text. -/
def Tokens.ofChars (cs : List Char) : Tokens :=
  Layout.readAll (cs.length + 2) { source := ⟨cs, {}, false⟩ }

end LetScript.Yaml
