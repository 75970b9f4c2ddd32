import LetScript.Node.Outline
import LetScript.Proofs.Node.Derivation
import LetScript.Proofs.Text.Fields
import LetScript.Proofs.Text.Quoted
import LetScript.Proofs.Token.Tiling

/-!
# Outlines tell the trees

The outline of a tree is a text for people to read, yet it loses nothing but the places of the types
in declarations.  Each line can be taken apart: it ends at the first newline, its label at the first
blank, and its place begins behind the last `@`, however many of these characters the string of a
literal may have.  The label says how many children there are to come, so the lines of a tree
determine the tree and where its last line ends.

This needs that names have neither newline nor colon, and that operators are those of a script.  It
holds of the trees that the parser reads from the tokens of a script.  The main result is
`outlineAll_eq_iff`.
-/

namespace LetScript

/-! ### What an outline leaves out -/

/-- The name of a type without its place. -/
def TypeName.unplaced (t : TypeName) : TypeName := ⟨t.name, Location.nowhere⟩

namespace Node

/-- A tree without the places of the types in its declarations. -/
def unplaceTypes : Node → Node
  | literal v l => literal v l
  | binary left op right l => binary left.unplaceTypes op right.unplaceTypes l
  | declaration name type expr l =>
    declaration name (type.map TypeName.unplaced) expr.unplaceTypes l
  | assignment name expr l => assignment name expr.unplaceTypes l
  | reference name l => reference name l

lemma typeText_unplaced (type : Option TypeName) :
    typeText (type.map TypeName.unplaced) = typeText type := by
  cases type <;> rfl

lemma linesAt_unplaceTypes (n : Node) (depth : Nat) :
    linesAt depth n.unplaceTypes = linesAt depth n := by
  induction n generalizing depth with
  | literal v l => rfl
  | binary left op right l ihl ihr =>
    simp only [unplaceTypes, linesAt, lineAt, heading, ihl, ihr]
  | declaration name type expr l ih =>
    simp only [unplaceTypes, linesAt, lineAt, heading, typeText_unplaced, ih]
  | assignment name expr l ih => simp only [unplaceTypes, linesAt, lineAt, heading, ih]
  | reference name l => rfl

/-! ### The fields of a line -/

/-- The word for the kind of a node. -/
def label : Node → Text
  | literal .. => "Literal"
  | binary .. => "BinaryOperation"
  | declaration .. => "LetOperation"
  | assignment .. => "AssignmentOperation"
  | reference .. => "Reference"

/-- What a line says about a node between its label and its place. -/
def detail : Node → Text
  | literal v _ => v.text
  | binary _ op _ _ => op.symbol
  | declaration name type _ _ => name ++ typeText type
  | assignment name _ _ => name
  | reference name _ => name

lemma heading_eq (n : Node) :
    n.heading = n.label ++ " " ++ n.detail ++ " " ++ "@" ++ n.location.text := by
  have hat : (" @" : Text) = " " ++ "@" := by decide
  cases n <;> simp only [heading, label, detail, location, hat, ← Text.append_assoc] <;> rfl

lemma le_of_mem_label {n : Node} {b : UInt8} (h : b ∈ n.label.bytes) : 0x41 ≤ b := by
  have hall : n.label.bytes.all (0x41 ≤ ·) = true := by
    cases n <;> rw [label] <;> decide
  simpa using List.all_eq_true.1 hall b h

/-- The label, the detail and the place can be told from what a line says. -/
lemma heading_inj {m n : Node} (h : m.heading = n.heading) :
    m.label = n.label ∧ m.detail = n.detail ∧ m.location = n.location := by
  have hat : ∀ l : Location, 0x40 ∉ l.text.bytes :=
    fun l hmem => absurd (Location.mem_bytes_text hmem) (by decide)
  have hblank : ∀ n : Node, 0x20 ∉ n.label.bytes :=
    fun n hmem => absurd (le_of_mem_label hmem) (by decide)
  rw [heading_eq, heading_eq] at h
  obtain ⟨hfront, hplace⟩ := Text.cut_last (hat _) (hat _) h
  obtain ⟨hlabel, hdetail⟩ :=
    Text.cut_first (hblank m) (hblank n) (Text.append_right_injective _ hfront)
  exact ⟨hlabel, hdetail, Location.text_injective hplace⟩

end Node

/-- A literal can be told from its text. -/
lemma Literal.text_injective : Function.Injective text := by
  -- the first parenthesis is in front of what the text says about the value
  have hcut : ∀ (kind kind' : Text) {value value' : Text}, 0x28 ∉ kind.bytes → 0x28 ∉ kind'.bytes →
      kind ++ "(" ++ value ++ ")" = kind' ++ "(" ++ value' ++ ")" → kind = kind' ∧ value = value' :=
    fun _ _ _ _ hkind hkind' h => Text.cut_first hkind hkind' (Text.append_right_injective _ h)
  intro v w h
  cases v with
  | integer m =>
    cases w with
    | integer n =>
      have hdigits := (hcut "Integer" "Integer" (by decide) (by decide) h).2
      exact congrArg integer (UInt32.toNat.inj (Text.ofNat_injective hdigits))
    | string t =>
      have hkind := (hcut "Integer" "String" (by decide) (by decide) h).1
      exact absurd hkind (by decide)
  | string s =>
    cases w with
    | integer n =>
      have hkind := (hcut "String" "Integer" (by decide) (by decide) h).1
      exact absurd hkind (by decide)
    | string t =>
      have hquoted := (hcut "String" "String" (by decide) (by decide) h).2
      exact congrArg string (Text.quoted_injective hquoted)

/-- An operator of a script can be told from its symbol. -/
lemma Operator.symbol_inj {op op' : Operator} {kind kind' : TokenKind} (hop : op.kind? = some kind)
    (hop' : op'.kind? = some kind') (h : op.symbol = op'.symbol) : op = op' := by
  cases op <;> cases hop <;> cases op' <;> cases hop' <;> first | rfl | exact absurd h (by decide)

/-- A declared name without a colon and its type can be told from the text that puts them
together. -/
lemma append_typeText_inj {name name' : Text} {type type' : Option TypeName}
    (hname : 0x3A ∉ name.bytes) (hname' : 0x3A ∉ name'.bytes)
    (h : name ++ Node.typeText type = name' ++ Node.typeText type') :
    name = name' ∧ type.map TypeName.unplaced = type'.map TypeName.unplaced := by
  have hcolon : ∀ (s : Text) (t : TypeName), 0x3A ∈ (s ++ Node.typeText (some t)).bytes :=
    fun s t => List.mem_append_right _ List.mem_cons_self
  have hsplit : ∀ (s : Text) (t : TypeName),
      s ++ Node.typeText (some t) = s ++ ":" ++ (" " ++ t.name) :=
    fun s t => (Text.append_assoc s ":" (" " ++ t.name)).symm
  have hbare : ∀ s : Text, s ++ Node.typeText none = s :=
    fun s => congrArg Text.mk (List.append_nil _)
  cases type with
  | none =>
    rw [hbare] at h
    cases type' with
    | none => exact ⟨h.trans (hbare name'), rfl⟩
    | some t' => exact absurd (h ▸ hcolon name' t') hname
  | some t =>
    cases type' with
    | none =>
      rw [hbare] at h
      exact absurd (h ▸ hcolon name t) hname'
    | some t' =>
      rw [hsplit, hsplit] at h
      obtain ⟨rfl, htype⟩ := Text.cut_first hname hname' h
      have hunplaced : t.unplaced = t'.unplaced :=
        congrArg (TypeName.mk · Location.nowhere) (Text.append_left_injective _ htype)
      exact ⟨rfl, congrArg some hunplaced⟩

/-! ### Trees that a script can have -/

/-- A name has neither a newline nor a colon, and an operator is one that a token can write. -/
def Mark.Legible : Mark → Prop
  | name s _ => 0x0A ∉ s.bytes ∧ 0x3A ∉ s.bytes
  | operator op _ => ∃ kind, op.kind? = some kind
  | _ => True

/-- All names and operators of the tree are like those of a script. -/
def Node.Legible (n : Node) : Prop := ∀ m ∈ n.marks, m.Legible

namespace Node

variable {left right expr : Node} {op : Operator} {name : Text} {type : Option TypeName}
  {l : Location}

lemma legible_binary : (binary left op right l).Legible ↔
    (∃ kind, op.kind? = some kind) ∧ left.Legible ∧ right.Legible := by
  simp only [Legible, marks, List.forall_mem_append, List.forall_mem_cons, Mark.Legible]
  tauto

lemma legible_declaration : (declaration name type expr l).Legible ↔
    (0x0A ∉ name.bytes ∧ 0x3A ∉ name.bytes) ∧
      (∀ t ∈ type, 0x0A ∉ t.name.bytes ∧ 0x3A ∉ t.name.bytes) ∧ expr.Legible := by
  cases type <;> simp [Legible, marks, typeMarks, Mark.Legible]

lemma legible_assignment : (assignment name expr l).Legible ↔
    (0x0A ∉ name.bytes ∧ 0x3A ∉ name.bytes) ∧ expr.Legible := by
  simp [Legible, marks, Mark.Legible]

lemma legible_reference : (reference name l).Legible ↔ 0x0A ∉ name.bytes ∧ 0x3A ∉ name.bytes := by
  simp [Legible, marks, Mark.Legible]

end Node

/-- The name that a token spells has neither a newline nor a colon. -/
lemma Spells.legible {cs : List Char} {next : Option Char} {value : Text}
    (h : Spells cs next .identifier value) : 0x0A ∉ value.bytes ∧ 0x3A ∉ value.bytes := by
  cases h with
  | @identifier word next hne hword hlet hnext =>
    have hchar : ∀ n < 0x80, isWordChar (Char.ofNat n) = false →
        UInt8.ofNat n ∉ (Text.ofChars cs).bytes := by
      intro n hn hother hmem
      rw [Text.ofNat_mem_bytes_iff hn, Text.chars_ofChars] at hmem
      exact absurd (hword _ hmem) (by simp [hother])
    exact ⟨hchar 0x0A (by decide) (by decide), hchar 0x3A (by decide) (by decide)⟩
  | sign hsign => simp [signs] at hsign

/-- What the parser reads from the tokens of a script is legible. -/
lemma legible_of_parse {g : Grammar} {script : Text} {tokens : List Token} {nodes : List Node}
    (htokens : tokenize script = .ok tokens) (hnodes : parse g tokens = .ok nodes) :
    ∀ n ∈ nodes, n.Legible := by
  intro n hn m hm
  obtain ⟨t, ht, hfits⟩ :=
    (parse_eq_ok_iff_written.1 hnodes).1.exists_fits (List.mem_flatMap.2 ⟨n, hn, hm⟩)
  cases m with
  | name s l =>
    obtain ⟨hkind, rfl, -⟩ := hfits
    obtain ⟨span, hspan⟩ :=
      exists_standsIn htokens ((List.takeWhile_sublist _).subset ht) (by simp [hkind])
    have hspells := hspan.spells
    rw [hkind] at hspells
    exact hspells.legible
  | operator op l => exact ⟨t.kind, hfits.1⟩
  | _ => trivial

/-! ### Lines -/

namespace Node

lemma newline_notMem_detail {n : Node} (h : n.Legible) : 0x0A ∉ n.detail.bytes := by
  have hdigit : ∀ k : Nat, 0x0A ∉ (Text.ofNat k).bytes :=
    fun k hmem => absurd (Text.isDigitByte_of_mem_ofNat hmem) (by decide)
  cases n with
  | literal v l =>
    cases v with
    | integer k =>
      simp only [detail, Literal.text, Text.bytes_append, List.mem_append, not_or]
      exact ⟨⟨by decide, hdigit _⟩, by decide⟩
    | string s =>
      simp only [detail, Literal.text, Text.bytes_append, List.mem_append, not_or]
      exact ⟨⟨by decide, s.newline_notMem_quoted⟩, by decide⟩
  | binary left op right l =>
    obtain ⟨⟨kind, hkind⟩, -, -⟩ := legible_binary.1 h
    cases op <;> cases hkind <;> rw [detail] <;> decide
  | declaration name type expr l =>
    obtain ⟨hname, htype, -⟩ := legible_declaration.1 h
    cases type with
    | none =>
      simp only [detail, typeText, Text.bytes_append, List.mem_append, not_or]
      exact ⟨hname.1, by decide⟩
    | some t =>
      simp only [detail, typeText, Text.bytes_append, List.mem_append, not_or]
      exact ⟨hname.1, by decide, (htype t rfl).1⟩
  | assignment name expr l => exact (legible_assignment.1 h).1.1
  | reference name l => exact (legible_reference.1 h).1

lemma newline_notMem_heading {n : Node} (h : n.Legible) : 0x0A ∉ n.heading.bytes := by
  have hlabel : 0x0A ∉ n.label.bytes := fun hmem => absurd (le_of_mem_label hmem) (by decide)
  have hplace : 0x0A ∉ n.location.text.bytes :=
    fun hmem => absurd (Location.mem_bytes_text hmem) (by decide)
  simp only [heading_eq, Text.bytes_append, List.mem_append, not_or]
  exact ⟨⟨⟨⟨⟨hlabel, by decide⟩, newline_notMem_detail h⟩, by decide⟩, by decide⟩, hplace⟩

/-- A line at a depth can be told from any text that begins with it. -/
lemma lineAt_append_inj {m n : Node} (hm : m.Legible) (hn : n.Legible) {depth : Nat} {s t : Text}
    (h : lineAt depth m ++ s = lineAt depth n ++ t) : m.heading = n.heading ∧ s = t := by
  refine Text.cut_first (newline_notMem_heading hm) (newline_notMem_heading hn) ?_
  simp only [lineAt, Text.append_assoc] at h ⊢
  exact Text.append_left_injective _ h

/-! ### Trees -/

/-- The trees right below a node. -/
def children : Node → List Node
  | literal .. => []
  | binary left _ right _ => [left, right]
  | declaration _ _ expr _ => [expr]
  | assignment _ expr _ => [expr]
  | reference .. => []

lemma linesAt_eq (n : Node) (depth : Nat) :
    linesAt depth n = lineAt depth n :: n.children.flatMap (linesAt (depth + 1)) := by
  cases n <;> simp [linesAt, children]

/-- Texts that begin with the lines of two trees: if they are equal, the first lines say the same,
and the texts behind them are equal. -/
lemma first_line_inj {m n : Node} (hm : m.Legible) (hn : n.Legible) {depth : Nat} {s t : Text}
    (h : Text.concat (linesAt depth m) ++ s = Text.concat (linesAt depth n) ++ t) :
    (m.label = n.label ∧ m.detail = n.detail ∧ m.location = n.location) ∧
      Text.concat (m.children.flatMap (linesAt (depth + 1))) ++ s
        = Text.concat (n.children.flatMap (linesAt (depth + 1))) ++ t := by
  rw [linesAt_eq, linesAt_eq n, Text.concat_cons, Text.concat_cons, Text.append_assoc,
    Text.append_assoc] at h
  obtain ⟨hheading, hbehind⟩ := lineAt_append_inj hm hn h
  exact ⟨heading_inj hheading, hbehind⟩

/-- The lines of a tree determine the tree and where they end. -/
lemma linesAt_append_inj {m n : Node} (hm : m.Legible) (hn : n.Legible) {depth : Nat} {s t : Text}
    (h : Text.concat (linesAt depth m) ++ s = Text.concat (linesAt depth n) ++ t) :
    m.unplaceTypes = n.unplaceTypes ∧ s = t := by
  -- what follows the lines is left open: for a left operand, it begins with the right operand
  induction m generalizing n depth s t with
  | literal v l =>
    obtain ⟨⟨hlabel, hdetail, hplace⟩, hbehind⟩ := first_line_inj hm hn h
    cases n with
    | literal w l' => exact ⟨congrArg₂ literal (Literal.text_injective hdetail) hplace, hbehind⟩
    | _ =>
      -- a node of another kind has another label
      rw [label, label] at hlabel
      exact absurd hlabel (by decide)
  | binary left op right l ihl ihr =>
    obtain ⟨⟨hlabel, hdetail, hplace⟩, hbehind⟩ := first_line_inj hm hn h
    cases n with
    | binary left' op' right' l' =>
      obtain ⟨⟨kind, hkind⟩, hleft, hright⟩ := legible_binary.1 hm
      obtain ⟨⟨kind', hkind'⟩, hleft', hright'⟩ := legible_binary.1 hn
      obtain rfl : op = op' := Operator.symbol_inj hkind hkind' hdetail
      obtain rfl : l = l' := hplace
      simp only [children, List.flatMap_cons, List.flatMap_nil, List.append_nil, Text.concat_append,
        Text.append_assoc] at hbehind
      obtain ⟨hlefts, hrights⟩ := ihl hleft hleft' hbehind
      obtain ⟨hrights, hends⟩ := ihr hright hright' hrights
      exact ⟨by simp only [unplaceTypes, hlefts, hrights], hends⟩
    | _ =>
      rw [label, label] at hlabel
      exact absurd hlabel (by decide)
  | declaration name type expr l ih =>
    obtain ⟨⟨hlabel, hdetail, hplace⟩, hbehind⟩ := first_line_inj hm hn h
    cases n with
    | declaration name' type' expr' l' =>
      obtain ⟨hname, -, hexpr⟩ := legible_declaration.1 hm
      obtain ⟨hname', -, hexpr'⟩ := legible_declaration.1 hn
      obtain ⟨rfl, htypes⟩ := append_typeText_inj hname.2 hname'.2 hdetail
      obtain rfl : l = l' := hplace
      simp only [children, List.flatMap_cons, List.flatMap_nil, List.append_nil] at hbehind
      obtain ⟨hexprs, hends⟩ := ih hexpr hexpr' hbehind
      exact ⟨by simp only [unplaceTypes, htypes, hexprs], hends⟩
    | _ =>
      rw [label, label] at hlabel
      exact absurd hlabel (by decide)
  | assignment name expr l ih =>
    obtain ⟨⟨hlabel, hdetail, hplace⟩, hbehind⟩ := first_line_inj hm hn h
    cases n with
    | assignment name' expr' l' =>
      obtain rfl : name = name' := hdetail
      obtain rfl : l = l' := hplace
      simp only [children, List.flatMap_cons, List.flatMap_nil, List.append_nil] at hbehind
      obtain ⟨hexprs, hends⟩ := ih (legible_assignment.1 hm).2 (legible_assignment.1 hn).2 hbehind
      exact ⟨by simp only [unplaceTypes, hexprs], hends⟩
    | _ =>
      rw [label, label] at hlabel
      exact absurd hlabel (by decide)
  | reference name l =>
    obtain ⟨⟨hlabel, hdetail, hplace⟩, hbehind⟩ := first_line_inj hm hn h
    cases n with
    | reference name' l' => exact ⟨congrArg₂ reference hdetail hplace, hbehind⟩
    | _ =>
      rw [label, label] at hlabel
      exact absurd hlabel (by decide)

lemma outline_ne_empty (n : Node) (s : Text) : n.outline ++ s ≠ ∅ := by
  intro h
  have hnewline : 0x0A ∈ (n.outline ++ s).bytes := by
    rw [outline, linesAt_eq, Text.concat_cons, lineAt]
    simp only [Text.bytes_append, List.mem_append]
    exact .inl (.inl (.inr (by decide)))
  rw [h] at hnewline
  cases hnewline

end Node

/-- Outlines one behind the other determine the trees. -/
lemma outlineAll_inj {nodes nodes' : List Node} (hnodes : ∀ n ∈ nodes, n.Legible)
    (hnodes' : ∀ n ∈ nodes', n.Legible) (h : outlineAll nodes = outlineAll nodes') :
    nodes.map Node.unplaceTypes = nodes'.map Node.unplaceTypes := by
  induction nodes generalizing nodes' with
  | nil =>
    cases nodes' with
    | nil => rfl
    | cons n' nodes' =>
      rw [outlineAll, outlineAll, List.map_cons, Text.concat_cons] at h
      exact absurd h.symm (n'.outline_ne_empty _)
  | cons n nodes ih =>
    rw [outlineAll, List.map_cons, Text.concat_cons] at h
    cases nodes' with
    | nil => exact absurd h (n.outline_ne_empty _)
    | cons n' nodes' =>
      obtain ⟨hn, hothers⟩ := List.forall_mem_cons.1 hnodes
      obtain ⟨hn', hothers'⟩ := List.forall_mem_cons.1 hnodes'
      rw [outlineAll, List.map_cons, Text.concat_cons] at h
      obtain ⟨hfirst, hbehind⟩ := Node.linesAt_append_inj hn hn' h
      rw [List.map_cons, List.map_cons, hfirst, ih hothers hothers' hbehind]

lemma outlineAll_map_unplaceTypes (nodes : List Node) :
    outlineAll (nodes.map Node.unplaceTypes) = outlineAll nodes := by
  have houtline : Node.outline ∘ Node.unplaceTypes = Node.outline :=
    funext fun n => congrArg Text.concat (n.linesAt_unplaceTypes 0)
  rw [outlineAll, List.map_map, houtline, outlineAll]

/-- **An outline loses nothing but the places of types.**  Let two scripts have tokens, and let the
parser read them, with whatever switches for each.  Then the outlines of the trees of both scripts
are equal exactly if the trees are, one by one, up to the places of the types in declarations. -/
theorem outlineAll_eq_iff {g g' : Grammar} {script script' : Text} {tokens tokens' : List Token}
    {nodes nodes' : List Node} (htokens : tokenize script = .ok tokens)
    (hnodes : parse g tokens = .ok nodes) (htokens' : tokenize script' = .ok tokens')
    (hnodes' : parse g' tokens' = .ok nodes') :
    outlineAll nodes = outlineAll nodes' ↔
      nodes.map Node.unplaceTypes = nodes'.map Node.unplaceTypes := by
  constructor
  · exact outlineAll_inj (legible_of_parse htokens hnodes) (legible_of_parse htokens' hnodes')
  · intro h
    rw [← outlineAll_map_unplaceTypes, h, outlineAll_map_unplaceTypes]

/-- A declaration with a type at some place, of a string that looks like the end of a line. -/
def annotated (l : Location) : Node :=
  .declaration "s" (some ⟨"T", l⟩)
    (.binary (.literal (.string "a @1:1\n") ⟨1, 13⟩) .plus (.reference "s" ⟨2, 5⟩) ⟨2, 3⟩) ⟨1, 1⟩

/-- Two scripts that differ in the place of a type have the same outline, though they are read with
different switches and though their trees differ. -/
theorem outlineAll_eq_iff_annotated :
    ∃ tokens tokens', tokenize "let s:  T = \"a @1:1\n\" + s" = .ok tokens ∧
      parse ⟨false, true⟩ tokens = .ok [annotated ⟨1, 9⟩] ∧
      tokenize "let s: T  = \"a @1:1\n\" + s" = .ok tokens' ∧
      parse ⟨true, true⟩ tokens' = .ok [annotated ⟨1, 8⟩] ∧
      [annotated ⟨1, 9⟩].map Node.unplaceTypes = [annotated ⟨1, 8⟩].map Node.unplaceTypes ∧
      annotated ⟨1, 9⟩ ≠ annotated ⟨1, 8⟩ ∧
      outlineAll [annotated ⟨1, 9⟩] = outlineAll [annotated ⟨1, 8⟩] := by
  have hread : ∀ {g : Grammar} {script : Text} {nodes : List Node},
      ((tokenize script).toOption.bind fun tokens => (parse g tokens).toOption) = some nodes →
        ∃ tokens, tokenize script = .ok tokens ∧ parse g tokens = .ok nodes := by
    intro g script nodes h
    obtain ⟨tokens, htokens, hnodes⟩ := Option.bind_eq_some_iff.1 h
    exact ⟨tokens, tokenize_eq_ok htokens, parse_eq_ok hnodes⟩
  obtain ⟨tokens, htokens, hnodes⟩ : ∃ tokens,
      tokenize "let s:  T = \"a @1:1\n\" + s" = .ok tokens ∧
        parse ⟨false, true⟩ tokens = .ok [annotated ⟨1, 9⟩] := hread (by decide +kernel)
  obtain ⟨tokens', htokens', hnodes'⟩ : ∃ tokens,
      tokenize "let s: T  = \"a @1:1\n\" + s" = .ok tokens ∧
        parse ⟨true, true⟩ tokens = .ok [annotated ⟨1, 8⟩] := hread (by decide +kernel)
  have hunplaced :
      [annotated ⟨1, 9⟩].map Node.unplaceTypes = [annotated ⟨1, 8⟩].map Node.unplaceTypes := by
    decide +kernel
  exact ⟨tokens, tokens', htokens, hnodes, htokens', hnodes', hunplaced, by decide +kernel,
    (outlineAll_eq_iff htokens hnodes htokens' hnodes').2 hunplaced⟩

end LetScript
