import LetScript.Yaml.Tag
import LetScript.Yaml.Token

/-!
# Documents of YAML

A document is a tree of scalars, sequences and mappings.  A node with an anchor can be repeated
by an alias, so a document also holds the nodes that its aliases stand for.
-/

namespace LetScript.Yaml

/-- A node of a document.  Lines count from one. -/
inductive Node where
  /-- A text with a tag. -/
  | scalar (tag value : Text) (line : Nat)
  /-- Some nodes in order. -/
  | sequence (tag : Text) (items : List Node) (line : Nat)
  /-- Some keys and their values in order. -/
  | mapping (tag : Text) (entries : List (Node × Node)) (line : Nat)
  /-- The node with a given number among those with an anchor.  Every alias has a place of its
  own. -/
  | aliased (name : Text) (number place line : Nat)

/-- The line of a node. -/
def Node.line : Node → Nat
  | scalar _ _ l => l
  | sequence _ _ l => l
  | mapping _ _ l => l
  | aliased _ _ _ l => l

/-- A document. -/
structure Document where
  /-- Its node. -/
  root : Node
  /-- The nodes with an anchor, by their numbers. -/
  anchored : List (Nat × Node)

/-- The node that a node stands for. -/
def Document.resolve (d : Document) : Node → Node
  | .aliased name number place line =>
    (d.anchored.lookup number).getD (.aliased name number place line)
  | n => n

/-! ## Reading -/

/-- Tokens that are being read into a document. -/
structure Reading where
  /-- The tokens not yet consumed. -/
  rest : List Token
  /-- The number of tokens consumed. -/
  consumed : Nat := 0
  /-- Whether the text could not be read behind the last token. -/
  failed : Bool
  /-- The numbers of the tokens that may still become keys. -/
  waiting : List Nat
  /-- The handles of tags, and what they stand for. -/
  handles : List (List Char × List Char) := []
  /-- The names of anchors and the numbers of their nodes, the latest first. -/
  names : List (Text × Nat) := []
  /-- How many nodes have an anchor. -/
  count : Nat := 0
  /-- Those of them that are complete. -/
  anchored : List (Nat × Node) := []

/-- A step of reading. -/
abbrev Reader := StateT Reading (Except SyntaxError)

namespace Reader

/-- The text is not YAML. -/
def fail {α : Type} : Reader α := fun _ => malformed

/-- The next token.  It is only known once two more tokens have been read, and once it cannot
become a key any more. -/
def peek : Reader Token := do
  let r ← get
  if r.failed && (r.rest.length < 3 || r.waiting.contains r.consumed) then fail
  else return r.rest.headD ⟨.streamEnd, 0⟩

/-- Consume the next token. -/
def skip : Reader Unit :=
  modify fun r => { r with rest := r.rest.drop 1, consumed := r.consumed + 1 }

/-- Whether a token is of one of the kinds. -/
def isOneOf (t : Token) (kinds : List TokenKind) : Bool := kinds.contains t.kind

/-- The node of a value that is left out. -/
def absent (line : Nat) : Node := .scalar Meaning.null.tag ∅ (line + 1)

/-- Number the node with an anchor. -/
def declare (name : Text) : Reader Nat := do
  let r ← get
  set { r with names := (name, r.count) :: r.names, count := r.count + 1 }
  return r.count

/-- Keep a node that has an anchor. -/
def complete (number : Option Nat) (n : Node) : Reader Node := do
  match number with
  | some k => modify fun r => { r with anchored := (k, n) :: r.anchored }
  | none => pure ()
  return n

/-- What a tag stands for. -/
def expandTag (handle suffix : List Char) : Reader Text := do
  if handle.isEmpty then return Text.ofChars suffix
  else
    match (← get).handles.lookup handle with
    | some expansion => return Text.ofChars (expansion ++ suffix)
    | none => fail

/-- The tag of a node: the one that is written, unless it is missing or only `!`. -/
def chooseTag (written : Option Text) (fallback : Text) : Text :=
  match written with
  | some t => if t.isEmpty || t = "!" then fallback else Tag.short t
  | none => fallback

/-- The tag of a scalar without one. -/
def scalarTag (text : List Char) (plain : Bool) : Text :=
  if !plain then Tag.string
  else if text = ['<', '<'] then Tag.merge
  else (plainMeaning true text).tag

/-- The anchor and the tag in front of a node, in either order. -/
structure Properties where
  /-- The number of the node, if it has an anchor. -/
  anchor : Option Nat := none
  /-- The tag that is written. -/
  tag : Option Text := none
  /-- Whether anything is written. -/
  written : Bool := false

/-- Read an anchor, if there is one and none was read before. -/
def readAnchor (p : Properties) : Reader Properties := do
  match (← peek).kind with
  | .anchor name =>
    skip
    return { p with anchor := some (← declare (Text.ofChars name)), written := true }
  | _ => return p

/-- Read a tag, if there is one and none was read before. -/
def readTag (p : Properties) : Reader Properties := do
  match (← peek).kind with
  | .tag handle suffix =>
    skip
    let t ← expandTag handle suffix
    return { p with tag := some t, written := p.written || !t.isEmpty }
  | _ => return p

/-- Read what stands in front of a node. -/
def readProperties : Reader Properties := do
  match (← peek).kind with
  | .anchor _ => readTag (← readAnchor {})
  | _ => readAnchor (← readTag {})

/-- The node that an alias repeats. -/
def readAlias (name : List Char) (line : Nat) : Reader Node := do
  let r ← get
  skip
  match r.names.lookup (Text.ofChars name) with
  | some k => return .aliased (Text.ofChars name) k r.consumed (line + 1)
  | none => fail

mutual

/-- A node.  With `block` it may be an indented collection, and with `indentless` also a sequence
that is not further in than the mapping around it. -/
def node (block indentless : Bool) : (fuel : Nat) → Reader Node
  | 0 => fail
  | fuel + 1 => do
    let start ← peek
    match start.kind with
    | .aliased name => readAlias name start.line
    | _ =>
      let p ← readProperties
      let t ← peek
      let line := start.line + 1
      match t.kind with
      | .scalar text plain =>
        skip
        complete p.anchor
          (.scalar (chooseTag p.tag (scalarTag text plain)) (Text.ofChars text) line)
      | .blockEntry =>
        if indentless then
          complete p.anchor
            (.sequence (chooseTag p.tag Tag.sequence) (← indentlessItems fuel) line)
        else absentNode p line
      | .flowSequenceStart =>
        skip
        complete p.anchor (.sequence (chooseTag p.tag Tag.sequence) (← flowItems true fuel) line)
      | .flowMappingStart =>
        skip
        complete p.anchor (.mapping (chooseTag p.tag Tag.mapping) (← flowEntries true fuel) line)
      | .sequenceStart =>
        if block then
          skip
          complete p.anchor (.sequence (chooseTag p.tag Tag.sequence) (← blockItems fuel) line)
        else absentNode p line
      | .mappingStart =>
        if block then
          skip
          complete p.anchor (.mapping (chooseTag p.tag Tag.mapping) (← blockEntries fuel) line)
        else absentNode p line
      | _ => absentNode p line

/-- A node of which only an anchor or a tag is written. -/
def absentNode (p : Properties) (line : Nat) : Reader Node :=
  if p.written then
    complete p.anchor (.scalar (chooseTag p.tag Meaning.null.tag) ∅ line)
  else fail

/-- A node, or nothing when the next token is of one of the kinds. -/
def nodeUnless (stops : List TokenKind) (block indentless : Bool) (line : Nat) :
    (fuel : Nat) → Reader Node
  | 0 => fail
  | fuel + 1 => do
    if isOneOf (← peek) stops then return absent line
    else node block indentless fuel

/-- The items of an indented sequence. -/
def blockItems : (fuel : Nat) → Reader (List Node)
  | 0 => fail
  | fuel + 1 => do
    let t ← peek
    match t.kind with
    | .blockEntry =>
      skip
      let n ← nodeUnless [.blockEntry, .blockEnd] true false t.line fuel
      return n :: (← blockItems fuel)
    | .blockEnd =>
      skip
      return []
    | _ => fail

/-- The items of a sequence that is not further in than the mapping around it. -/
def indentlessItems : (fuel : Nat) → Reader (List Node)
  | 0 => fail
  | fuel + 1 => do
    let t ← peek
    match t.kind with
    | .blockEntry =>
      skip
      let n ← nodeUnless [.blockEntry, .key, .value, .blockEnd] true false t.line fuel
      return n :: (← indentlessItems fuel)
    | _ => return []

/-- The entries of an indented mapping. -/
def blockEntries : (fuel : Nat) → Reader (List (Node × Node))
  | 0 => fail
  | fuel + 1 => do
    let t ← peek
    match t.kind with
    | .key =>
      skip
      let k ← nodeUnless [.key, .value, .blockEnd] true true t.line fuel
      let v ← blockValue fuel
      return (k, v) :: (← blockEntries fuel)
    | .blockEnd =>
      skip
      return []
    | _ => fail

/-- The value of a key in an indented mapping. -/
def blockValue : (fuel : Nat) → Reader Node
  | 0 => fail
  | fuel + 1 => do
    let t ← peek
    match t.kind with
    | .value =>
      skip
      nodeUnless [.key, .value, .blockEnd] true true t.line fuel
    | _ => return absent t.line

/-- The items of a sequence in brackets. -/
def flowItems (first : Bool) : (fuel : Nat) → Reader (List Node)
  | 0 => fail
  | fuel + 1 => do
    let t ← peek
    if t.kind = .flowSequenceEnd then
      skip
      return []
    else
      if !first then
        if t.kind = .flowEntry then skip else fail
      let t ← peek
      match t.kind with
      | .flowSequenceEnd =>
        skip
        return []
      | .key =>
        skip
        let entry ← pairEntry fuel
        return .mapping Tag.mapping [entry] (t.line + 1) :: (← flowItems false fuel)
      | _ =>
        let n ← node false false fuel
        return n :: (← flowItems false fuel)

/-- A key and its value as an item of a sequence in brackets. -/
def pairEntry : (fuel : Nat) → Reader (Node × Node)
  | 0 => fail
  | fuel + 1 => do
    let t ← peek
    let k ←
      if isOneOf t [.value, .flowEntry, .flowSequenceEnd] then do
        skip
        pure (absent t.line)
      else node false false fuel
    let t ← peek
    if t.kind = .value then
      skip
      let v ← nodeUnless [.flowEntry, .flowSequenceEnd] false false t.line fuel
      return (k, v)
    else return (k, absent t.line)

/-- The entries of a mapping in braces. -/
def flowEntries (first : Bool) : (fuel : Nat) → Reader (List (Node × Node))
  | 0 => fail
  | fuel + 1 => do
    let t ← peek
    if t.kind = .flowMappingEnd then
      skip
      return []
    else
      if !first then
        if t.kind = .flowEntry then skip else fail
      let t ← peek
      match t.kind with
      | .flowMappingEnd =>
        skip
        return []
      | .key =>
        skip
        -- a key that is left out stands where the next token begins
        let behind ← peek
        let k ← nodeUnless [.value, .flowEntry, .flowMappingEnd] false false behind.line fuel
        let v ← flowValue fuel
        return (k, v) :: (← flowEntries false fuel)
      | _ =>
        let k ← node false false fuel
        return (k, absent t.line) :: (← flowEntries false fuel)

/-- The value of a key in a mapping in braces. -/
def flowValue : (fuel : Nat) → Reader Node
  | 0 => fail
  | fuel + 1 => do
    let t ← peek
    if t.kind = .value then
      skip
      nodeUnless [.flowEntry, .flowMappingEnd] false false t.line fuel
    else return absent t.line

end

/-! ## The first document -/

/-- The handles that need no directive. -/
def defaultHandles : List (List Char × List Char) :=
  [(['!'], ['!']), (['!', '!'], "tag:yaml.org,2002:".toList)]

/-- Read the directives in front of a document. -/
def directives (versioned : Bool) : (fuel : Nat) → Reader Unit
  | 0 => fail
  | fuel + 1 => do
    match (← peek).kind with
    | .version major minor =>
      if versioned || major ≠ 1 || minor ≠ 1 then fail
      else
        skip
        directives true fuel
    | .tagHandle handle expansion =>
      if ((← get).handles.lookup handle).isSome then fail
      else
        skip
        modify fun r => { r with handles := r.handles ++ [(handle, expansion)] }
        directives versioned fuel
    | _ => modify fun r => { r with handles := r.handles ++ defaultHandles }

/-- The node of the first document, if there is a document. -/
def firstRoot (fuel : Nat) : Reader (Option Node) := do
  discard peek
  skip
  let t ← peek
  match t.kind with
  | .streamEnd => return none
  | .version .. | .tagHandle .. | .documentStart =>
    directives false fuel
    if (← peek).kind ≠ .documentStart then fail
    else
      skip
      let t ← peek
      match t.kind with
      | .version .. | .tagHandle .. | .documentStart | .documentEnd | .streamEnd =>
        return some (absent t.line)
      | _ => return some (← node true false fuel)
  | _ =>
    directives false fuel
    return some (← node true false fuel)

/-- The first document, if there is one.  What follows it is not read, apart from the two tokens
behind its end. -/
def firstDocument (fuel : Nat) : Reader (Option Document) := do
  match ← firstRoot fuel with
  | none => return none
  | some root =>
    discard peek
    return some ⟨root, (← get).anchored⟩

end Reader

/-- The first document of a YAML text, if it has one. -/
def Document.first? (t : Text) : Except SyntaxError (Option Document) :=
  match charsOf? t with
  | none => malformed
  | some cs =>
    let tokens := Tokens.ofChars cs
    (Reader.firstDocument (3 * tokens.list.length + 8)
      { rest := tokens.list, failed := tokens.failed, waiting := tokens.waiting }).map Prod.fst

end LetScript.Yaml
