import LetScript.Settings.Basic
import LetScript.Text.Quoted
import LetScript.Yaml.Document

/-!
# Settings from YAML

The settings are a mapping of sections, and each section is a mapping of switches or names.  What
is left out or null keeps its default.  Errors do not stop the reading of a document: all of them
are reported, each with its line.
-/

namespace LetScript

open Yaml (Document SyntaxError malformed Meaning meaning?)

/-! ## Where values go -/

/-- The names of the switches. -/
inductive Switch where
  /-- Operator precedence. -/
  | precedence
  /-- Uses and assignments of names. -/
  | assignments
  /-- The symbol table. -/
  | symbolTable
  /-- No run with type errors. -/
  | gate
  /-- Evaluation of sums. -/
  | arithmetic
deriving DecidableEq

/-- Set a switch. -/
def Switches.set (s : Switches) (b : Bool) : Switch → Switches
  | .precedence => { s with precedence := b }
  | .assignments => { s with assignments := b }
  | .symbolTable => { s with symbolTable := b }
  | .gate => { s with gate := b }
  | .arithmetic => { s with arithmetic := b }

/-- A part of the settings that a value can be read into. -/
inductive Target where
  /-- All settings. -/
  | whole
  /-- The section of the parser. -/
  | parserSection
  /-- The section of the type checker. -/
  | checkerSection
  /-- The section of the interpreter. -/
  | interpreterSection
  /-- A switch. -/
  | switch (s : Switch)
  /-- The name of the scope. -/
  | context
deriving DecidableEq

namespace Target

/-- The fields of a section. -/
def fields : Target → List (Text × Target)
  | whole =>
    [("parser", parserSection), ("checker", checkerSection), ("interpreter", interpreterSection)]
  | parserSection =>
    [("precedence", switch .precedence), ("assignments", switch .assignments)]
  | checkerSection => [("symbol_table", switch .symbolTable), ("gate", switch .gate)]
  | interpreterSection => [("arithmetic", switch .arithmetic), ("context", context)]
  | switch _ => []
  | context => []

/-- Whether a target has fields. -/
def isSection (t : Target) : Bool := !t.fields.isEmpty

/-- How messages name the type of a target. -/
def typeName : Target → Text
  | whole => "caoi.Config"
  | parserSection => "caoi.ParserConfig"
  | checkerSection => "caoi.CheckerConfig"
  | interpreterSection => "caoi.InterpreterConfig"
  | switch _ => "bool"
  | context => "string"

end Target

/-! ## Messages -/

/-- A value as messages quote it: of more than ten bytes only seven are shown. -/
def quotedValue (value : Text) : Text :=
  if value.size > 10 then " \x60" ++ ⟨value.bytes.take 7⟩ ++ "...\x60"
  else " \x60" ++ value ++ "\x60"

/-- A message about a line. -/
def atLine (line : Nat) (message : Text) : Text := "line " ++ Text.ofNat line ++ ": " ++ message

/-- The message for a value that does not fit.  Under the tag of a collection the value is not
quoted but follows the tag as it is; a collection itself has no value to show. -/
def misfit (tag value : Text) (line : Nat) (type : Text) : Text :=
  let shown :=
    if tag = Yaml.Tag.sequence || tag = Yaml.Tag.mapping then value else quotedValue value
  atLine line ("cannot unmarshal " ++ tag ++ shown ++ " into " ++ type)

/-- The text by which keys are compared, and whether they are scalars, collections or aliases. -/
def keyIdentity : Yaml.Node → Nat × Text
  | .scalar _ value _ => (0, value)
  | .sequence .. => (1, ∅)
  | .mapping .. => (2, ∅)
  | .aliased name .. => (3, name)

/-- The messages for keys that repeat a given key. -/
def repetitions (key : Yaml.Node) (others : List (Yaml.Node × Yaml.Node)) : List Text :=
  (others.filter fun e => keyIdentity e.1 = keyIdentity key).map fun e =>
    atLine e.1.line ("mapping key " ++ (keyIdentity key).2.quoted ++ " already defined at line "
      ++ Text.ofNat key.line)

/-- The messages for the repeated keys of a mapping. -/
def allRepetitions : List (Yaml.Node × Yaml.Node) → List Text
  | [] => []
  | e :: rest => repetitions e.1 rest ++ allRepetitions rest

/-! ## Decoding -/

/-- Settings that are being read. -/
structure Decoding where
  /-- The settings so far. -/
  settings : Settings := {}
  /-- The messages so far. -/
  errors : List Text := []
  /-- The names that a mapping which is taken over may not set any more. -/
  taken : Option (List Text) := none

namespace Decoding

/-- Add messages. -/
def report (d : Decoding) (messages : List Text) : Decoding :=
  { d with errors := d.errors ++ messages }

/-- The words for true and false that only a switch understands. -/
def switchWord? (t : Text) : Option Bool :=
  if (["y", "Y", "yes", "Yes", "YES", "on", "On", "ON"] : List Text).contains t then some true
  else if (["n", "N", "no", "No", "NO", "off", "Off", "OFF"] : List Text).contains t then some false
  else none

/-- The truth value that a scalar gives to a switch. -/
def switchValue? : Meaning → Option Bool
  | .bool b => some b
  | .text t => switchWord? t
  | _ => none

/-- Read a scalar into a target.  Null changes nothing. -/
def scalar (d : Decoding) (target : Target) (tag value : Text) (line : Nat) :
    Except SyntaxError Decoding :=
  match meaning? tag value with
  | none => malformed
  | some .null => .ok d
  | some m =>
    let bad := d.report [misfit tag value line target.typeName]
    match target with
    | .switch s =>
      match switchValue? m with
      | some b =>
        .ok { d with settings :=
          { d.settings with switches := d.settings.switches.set b s } }
      | none => .ok bad
    | .context =>
      let text := match m with
        | .text t => t
        | _ => value
      .ok { d with settings := { d.settings with context := text } }
    | _ => .ok bad

/-- The name that a key stands for, if it stands for one, and messages. -/
def keyName (doc : Document) (key : Yaml.Node) : Except SyntaxError (Option Text × List Text) :=
  match doc.resolve key with
  | .scalar tag value _ =>
    match meaning? tag value with
    | none => malformed
    | some .null => .ok (none, [])
    | some (.text t) => .ok (some t, [])
    | some _ => .ok (some value, [])
  | .sequence tag _ line => .ok (none, [misfit tag ∅ line Target.context.typeName])
  | .mapping tag entries line =>
    match allRepetitions entries with
    | [] => .ok (none, [misfit tag ∅ line Target.context.typeName])
    | messages => .ok (none, messages)
  | .aliased .. => malformed

/-- Whether a key takes another mapping over. -/
def isMergeKey : Yaml.Node → Bool
  | .scalar tag value _ => tag = Yaml.Tag.merge && value = ("<<" : Text)
  | _ => false

/-- The names that the keys of a mapping stand for. -/
def ownNames (doc : Document) (entries : List (Yaml.Node × Yaml.Node)) : List Text :=
  entries.filterMap fun e =>
    match doc.resolve e.1 with
    | .scalar tag value _ =>
      match meaning? tag value with
      | some (.text t) => some t
      | _ => none
    | _ => none

/-- Whether a node is a mapping, perhaps through an alias. -/
def isMapping (doc : Document) (n : Yaml.Node) : Bool :=
  match doc.resolve n with
  | .mapping .. => true
  | _ => false

mutual

/-- Read a node into a target.  The places of the aliases that are being followed are
`active`; an alias inside itself has no value. -/
def node (doc : Document) (active : List Nat) (target : Target) (n : Yaml.Node) :
    (fuel : Nat) → Decoding → Except SyntaxError Decoding
  | 0, _ => malformed
  | fuel + 1, d =>
    match n with
    | .scalar tag value line => d.scalar target tag value line
    | .sequence tag _ line => .ok (d.report [misfit tag ∅ line target.typeName])
    | .mapping tag entries line =>
      match allRepetitions entries with
      | [] =>
        if target.isSection then mapping doc active target entries fuel d
        else .ok (d.report [misfit tag ∅ line target.typeName])
      | messages => .ok (d.report messages)
    | .aliased _ _ place _ =>
      if active.contains place then malformed
      else node doc (place :: active) target (doc.resolve n) fuel d

/-- Read a mapping into a section: first its own entries, and then what it takes over. -/
def mapping (doc : Document) (active : List Nat) (target : Target)
    (es : List (Yaml.Node × Yaml.Node)) :
    (fuel : Nat) → Decoding → Except SyntaxError Decoding
  | 0, _ => malformed
  | fuel + 1, d => do
    let d ← entries doc active target [] es fuel d
    match (es.filter fun e => isMergeKey e.1).getLast? with
    | none => return d
    | some (_, source) =>
      let taken := d.taken
      let d := { d with taken := some (taken.getD (ownNames doc es)) }
      let d ← match source with
        | .sequence _ items _ => takeOverAll doc active target items fuel d
        | _ => takeOver doc active target source fuel d
      return { d with taken := taken.bind fun _ => d.taken }

/-- Read entries into a section, of which the fields `done` have been set. -/
def entries (doc : Document) (active : List Nat) (target : Target) (done : List Text)
    (es : List (Yaml.Node × Yaml.Node)) :
    (fuel : Nat) → Decoding → Except SyntaxError Decoding
  | 0, _ => malformed
  | fuel + 1, d =>
    match es with
    | [] => .ok d
    | (key, value) :: rest =>
      if isMergeKey key then entries doc active target done rest fuel d
      else do
        let (name, messages) ← keyName doc key
        let d := d.report messages
        match name with
        | none => entries doc active target done rest fuel d
        | some name =>
          if d.taken.any (·.contains name) then entries doc active target done rest fuel d
          else
            let d := { d with taken := d.taken.map (name :: ·) }
            match target.fields.lookup name with
            | none =>
              let d := d.report
                [atLine key.line ("field " ++ name ++ " not found in type " ++ target.typeName)]
              entries doc active target done rest fuel d
            | some field =>
              if done.contains name then
                let d := d.report
                  [atLine key.line ("field " ++ name ++ " already set in type " ++ target.typeName)]
                entries doc active target done rest fuel d
              else
                let d' ← node doc active field value fuel { d with taken := none }
                entries doc active target (name :: done) rest fuel { d' with taken := d.taken }

/-- Take over one mapping. -/
def takeOver (doc : Document) (active : List Nat) (target : Target) (n : Yaml.Node) :
    (fuel : Nat) → Decoding → Except SyntaxError Decoding
  | 0, _ => malformed
  | fuel + 1, d => if isMapping doc n then node doc active target n fuel d else malformed

/-- Take over mappings one after the other. -/
def takeOverAll (doc : Document) (active : List Nat) (target : Target) (ns : List Yaml.Node) :
    (fuel : Nat) → Decoding → Except SyntaxError Decoding
  | 0, _ => malformed
  | fuel + 1, d =>
    match ns with
    | [] => .ok d
    | n :: rest => do
      let d ← takeOver doc active target n fuel d
      takeOverAll doc active target rest fuel d

end

end Decoding

/-! ## Settings -/

/-- Why settings could not be read. -/
inductive SettingsError where
  /-- The text is not YAML. -/
  | malformed
  /-- Some of its values do not fit. -/
  | misfits (messages : List Text)
  /-- The file could not be read. -/
  | unreadable (message : Text)
deriving DecidableEq

/-- The full wording of an error.  That of a text which is not YAML has no details. -/
def SettingsError.text : SettingsError → Text
  | malformed => "config error: yaml: malformed document"
  | misfits messages =>
    "config error: yaml: unmarshal errors:\n  " ++ Text.join "\n  " messages
  | unreadable message => "config error: " ++ message

namespace Settings

/-- An empty name of the scope stands for the default. -/
def withContextName (s : Settings) : Settings :=
  if s.context.isEmpty then { s with context := defaultContext } else s

/-- The settings in the first document of a YAML text. -/
def ofYaml (t : Text) : Except SettingsError Settings :=
  match Document.first? t with
  | .error _ => .error .malformed
  | .ok none => .ok {}
  | .ok (some doc) =>
    match Decoding.node doc [] .whole doc.root (4 * t.size + 16) {} with
    | .error _ => .error .malformed
    | .ok d =>
      if d.errors.isEmpty then .ok d.settings.withContextName else .error (.misfits d.errors)

end Settings

end LetScript
