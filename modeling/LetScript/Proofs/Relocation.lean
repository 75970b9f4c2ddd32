import LetScript.Proofs.Node.Derivation
import LetScript.Proofs.Program
import LetScript.Proofs.Text.Lines
import LetScript.Proofs.Token.Spelling
import LetScript.Proofs.Typing.Checker

/-!
# Scripts behind one another

A script behind another one, on a line of its own, means what it means alone: it has the same tokens,
trees and, where no names are recorded, type errors, only that they stand further down.  So the scanner
must be done with the first script at the newline, the parser must not take an expression of the second
script into the last one of the first, and neither they nor the checker may look at the numbers of
lines.

Each stage is shown to commute with moving all places: the scanner with moving them down, the parser
and the checker with moving them anywhere.  The main result is `compile_append`.
-/

namespace LetScript

/-! ### Moving places -/

/-- The place in the same column, so many lines further down. -/
def Location.down (k : Int) (l : Location) : Location := ⟨l.line + k, l.column⟩

/-- A token at another place. -/
def Token.relocate (f : Location → Location) (t : Token) : Token := { t with location := f t.location }

/-- A written type at another place. -/
def TypeName.relocate (f : Location → Location) (t : TypeName) : TypeName :=
  { t with location := f t.location }

/-- A tree with all its places moved. -/
def Node.relocate (f : Location → Location) : Node → Node
  | literal v l => literal v (f l)
  | binary left op right l => binary (left.relocate f) op (right.relocate f) (f l)
  | declaration name type expr l =>
    declaration name (type.map (TypeName.relocate f)) (expr.relocate f) (f l)
  | assignment name expr l => assignment name (expr.relocate f) (f l)
  | reference name l => reference name (f l)

/-- A type error that points to another place. -/
def TypeError.relocate (f : Location → Location) : TypeError → TypeError
  | mismatched l a b => mismatched (f l) a b
  | invalidType l n => invalidType (f l) n
  | undefinedVariable l n => undefinedVariable (f l) n

/-! ### The scanner -/

section Scanner

variable {l : Location} {c : Char} {cs rest : List Char} {k : Int}

lemma Location.after_down (l : Location) (c : Char) : (l.down k).after c = (l.after c).down k := by
  rw [after, after]
  split
  · simp [down, Int.add_right_comm]
  · rfl

lemma Location.afterAll_down (l : Location) (cs : List Char) :
    (l.down k).afterAll cs = (l.afterAll cs).down k := by
  induction cs generalizing l with
  | nil => rfl
  | cons c cs ih => rw [afterAll_cons, afterAll_cons, after_down, ih]

/-- The scanner looks at columns, but not at lines. -/
lemma scan_down (l : Location) (cs : List Char) :
    (scan (l.down k) cs).tokens = (scan l cs).tokens.map (Token.relocate (Location.down k)) ∧
      ((scan (l.down k) cs).error = none ↔ (scan l cs).error = none) := by
  fun_induction scan l cs with
  | case1 l =>
    rw [scan]
    exact ⟨rfl, Iff.rfl⟩
  | case2 l c rest hcomment ih =>
    rw [scan_comment (l := l.down k) hcomment, Location.afterAll_down]
    exact ih
  | case3 l c rest hcomment hblank ih =>
    rw [scan_blank (l := l.down k) hcomment hblank, Location.after_down]
    exact ih
  | case4 l c rest hcomment hblank x token herror =>
    rw [scan_fault (l := l.down k) hcomment hblank herror]
    exact ⟨rfl, by simp⟩
  | case5 l c rest hcomment hblank x token herror s ih =>
    rw [scan_lexeme (l := l.down k) hcomment hblank herror, Location.afterAll_down]
    exact ⟨congrArg _ ih.1, ih.2⟩

/-- Behind a newline the scanner is in the first column, as many lines down as there are newlines. -/
lemma start_afterAll (cs : List Char) :
    (Location.start.afterAll cs).after '\n' = Location.start.down (1 + cs.count '\n') := by
  have hline : (Location.start.afterAll cs).line = 1 + (cs.count '\n' : Nat) := by
    rw [← placeAt_length, placeAt, List.take_length]
  rw [Location.after, if_pos rfl, Location.down, hline, Int.add_comm]
  rfl

/-- The tokens of a script behind another one: the end of the first script is forgotten, and the tokens
of the second one move down. -/
lemma tokenize_append_newline {first second : Text} {ts us : List Token}
    (hts : tokenize first = .ok ts) (hus : tokenize second = .ok us) :
    ∃ lexemes stop, ts = lexemes ++ [Token.endAt stop] ∧ (∀ t ∈ lexemes, t.kind ≠ .endOfFile) ∧
      tokenize (first ++ "\n" ++ second) = .ok (lexemes
        ++ us.map (Token.relocate (Location.down (1 + first.bytes.count 10)))) := by
  obtain ⟨hfirst, rfl⟩ := tokenize_eq_ok_iff.1 hts
  obtain ⟨hsecond, rfl⟩ := tokenize_eq_ok_iff.1 hus
  obtain ⟨lexemes, htokens, happend⟩ := scan_append_newline hfirst
  have happend' := happend second.chars
  have hchars : (first ++ "\n" ++ second).chars = first.chars ++ '\n' :: second.chars := by
    have hbytes : first ++ "\n" ++ second = ⟨first.bytes ++ 10 :: second.bytes⟩ :=
      congrArg Text.mk (List.append_assoc first.bytes [10] second.bytes)
    rw [hbytes, Text.chars_append_newline]
  obtain ⟨hdown, herror⟩ :=
    scan_down (k := 1 + first.chars.count '\n') Location.start second.chars
  rw [start_afterAll] at happend'
  have hkinds : ∀ t ∈ lexemes, t.kind ≠ .endOfFile := by
    obtain ⟨lexemes', spans, hsplit, hreads⟩ := tokenize_reads hts
    obtain rfl : lexemes = lexemes' := (List.append_inj' (htokens.symm.trans hsplit) rfl).1
    exact fun t ht => (hreads.tiles.kind_ne t ht).1
  refine ⟨lexemes, _, htokens, hkinds, tokenize_eq_ok_iff.2 ?_⟩
  rw [hchars, happend', herror, hdown, Text.count_newline_chars]
  exact ⟨hsecond, rfl⟩

end Scanner

/-! ### The parser -/

section Parser

variable {f : Location → Location} {g : Grammar}

/-- A mark with its place moved, if it has one. -/
def Mark.relocate (f : Location → Location) : Mark → Mark
  | number n l => number n (f l)
  | text s l => text s (f l)
  | name s l => name s (l.map f)
  | keyword l => keyword (f l)
  | colon => colon
  | equals => equals
  | operator op l => operator op (f l)

lemma typeMarks_relocate (type : Option TypeName) :
    typeMarks (type.map (TypeName.relocate f)) = (typeMarks type).map (Mark.relocate f) := by
  cases type <;> rfl

lemma Node.marks_relocate (n : Node) : (n.relocate f).marks = n.marks.map (Mark.relocate f) := by
  induction n with
  | literal v l => cases v <;> rfl
  | binary left op right l ihl ihr =>
    simp [relocate, marks, ihl, ihr, Mark.relocate]
  | declaration name type expr l ih =>
    simp [relocate, marks, ih, typeMarks_relocate, Mark.relocate]
  | assignment name expr l ih => simp [relocate, marks, ih, Mark.relocate]
  | reference name l => rfl

lemma Mark.Fits.relocate {m : Mark} {t : Token} (h : m.Fits t) :
    (m.relocate f).Fits (t.relocate f) := by
  cases m with
  | name s l =>
    obtain ⟨hkind, hvalue, hplace⟩ := h
    refine ⟨hkind, hvalue, fun l' hl' => ?_⟩
    obtain ⟨l₀, hl₀, rfl⟩ := Option.map_eq_some_iff.1 hl'
    exact congrArg f (hplace l₀ hl₀)
  | number n l => exact ⟨h.1, h.2.1, congrArg f h.2.2⟩
  | text s l => exact ⟨h.1, h.2.1, congrArg f h.2.2⟩
  | keyword l => exact ⟨h.1, congrArg f h.2⟩
  | operator op l => exact ⟨h.1, congrArg f h.2⟩
  | colon => exact h
  | equals => exact h

lemma Written.relocate {ms : List Mark} {tokens : List Token} (h : Written ms tokens) :
    Written (ms.map (Mark.relocate f)) (tokens.map (Token.relocate f)) := by
  induction h with
  | nil => exact .nil
  | cons hm _ ih => exact .cons hm.relocate ih

namespace Node

lemma parts_relocate (n : Node) : (n.relocate f).parts = n.parts.map (relocate f) := by
  induction n with
  | binary left op right l ihl ihr => simp [relocate, parts, ihl, ihr]
  | declaration name type expr l ih => simp [relocate, parts, ih]
  | assignment name expr l ih => simp [relocate, parts, ih]
  | _ => rfl

lemma isOpen_relocate (n : Node) : (n.relocate f).isOpen = n.isOpen := by
  induction n with
  | binary left op right l _ ihr => exact ihr
  | _ => rfl

lemma tiered_relocate (n : Node) : (n.relocate f).tiered = n.tiered := by
  cases n with
  | binary left op right l =>
    have hleft : (left.relocate f).standsLeftOf op = left.standsLeftOf op := by
      cases left <;> simp [relocate, standsLeftOf, isOpen_relocate]
    have hright : (right.relocate f).standsRightOf op = right.standsRightOf op := by
      cases right <;> rfl
    rw [relocate, tiered, tiered, hleft, hright]
  | _ => rfl

lemma rightward_relocate (n : Node) : (n.relocate f).rightward = n.rightward := by
  cases n with
  | binary left op right l => cases left <;> rfl
  | _ => rfl

/-- How operators group does not depend on places. -/
lemma Regular.relocate {n : Node} (h : n.Regular g) : (n.relocate f).Regular g := by
  intro m' hm'
  rw [parts_relocate] at hm'
  obtain ⟨m, hm, rfl⟩ := List.mem_map.1 hm'
  have hnames : (m.relocate f).usesName = m.usesName := by cases m <;> rfl
  have hregular := h m hm
  rwa [regular, Grammar.shape, ← tiered_relocate (f := f), ← rightward_relocate (f := f), ← hnames]
    at hregular

end Node

/-- Trees that are written one behind the other are read one behind the other, wherever the second
ones stand. -/
lemma parse_append {ts us : List Token} {nodes nodes' : List Node}
    (hts : ∀ t ∈ ts, t.kind ≠ .endOfFile) {stop : Location}
    (h : parse g (ts ++ [Token.endAt stop]) = .ok nodes) (h' : parse g us = .ok nodes') :
    parse g (ts ++ us.map (Token.relocate f)) = .ok (nodes ++ nodes'.map (Node.relocate f)) := by
  obtain ⟨hwritten, hregular⟩ := parse_eq_ok_iff_written.1 h
  obtain ⟨hwritten', hregular'⟩ := parse_eq_ok_iff_written.1 h'
  rw [script_append hts (by simp [Token.endAt])] at hwritten
  have hscript : script (ts ++ us.map (Token.relocate f))
      = ts ++ (script us).map (Token.relocate f) := by
    rw [script, List.takeWhile_append_of_pos (by simpa using hts), List.takeWhile_map]
    rfl
  have hmarks : (nodes ++ nodes'.map (Node.relocate f)).flatMap Node.marks
      = nodes.flatMap Node.marks ++ (nodes'.flatMap Node.marks).map (Mark.relocate f) := by
    simp [List.flatMap_map, List.map_flatMap, Node.marks_relocate]
  refine parse_eq_ok_iff_written.2 ⟨?_, fun n hn => ?_⟩
  · rw [hscript, hmarks]
    exact hwritten.append hwritten'.relocate
  · rcases List.mem_append.1 hn with hn | hn
    · exact hregular n hn
    · obtain ⟨m, hm, rfl⟩ := List.mem_map.1 hn
      exact (hregular' m hm).relocate

end Parser

/-! ### The checker -/

section Checker

variable {f : Location → Location}

lemma Node.location_relocate (n : Node) : (n.relocate f).location = f n.location := by
  cases n <;> rfl

lemma joinOperands_relocate (l : Location) (a b : Resolution) : joinOperands (f l) a b
    = ((joinOperands l a b).1, (joinOperands l a b).2.map (TypeError.relocate f)) := by
  cases a with
  | known s =>
    cases b with
    | known t =>
      rw [joinOperands, joinOperands]
      split <;> rfl
    | _ => rfl
  | _ => cases b <;> rfl

lemma conform_relocate (l : Location) (declared : Ty) (r : Resolution) : conform (f l) declared r
    = ((conform l declared r).1, (conform l declared r).2.map (TypeError.relocate f)) := by
  cases r with
  | known t =>
    rw [conform, conform]
    split <;> rfl
  | _ => rfl

lemma reassign_relocate (l : Location) (recorded r : Resolution) : reassign (f l) recorded r
    = ((reassign l recorded r).1, (reassign l recorded r).2.map (TypeError.relocate f)) := by
  cases recorded with
  | known s =>
    cases r with
    | known t =>
      rw [reassign, reassign]
      split <;> rfl
    | _ => rfl
  | _ => rfl

/-- Types do not depend on places, and errors move with them. -/
lemma infer_relocate (scope : Scope) (n : Node) : infer scope (n.relocate f)
    = ⟨(infer scope n).type, (infer scope n).scope,
      (infer scope n).errors.map (TypeError.relocate f)⟩ := by
  induction n generalizing scope with
  | literal v l => cases v <;> rfl
  | binary left op right l ihl ihr =>
    simp [Node.relocate, infer, ihl, ihr, joinOperands_relocate]
  | declaration name type expr l ih =>
    cases type with
    | none => simp [Node.relocate, infer, ih]
    | some written =>
      simp only [Node.relocate, infer, ih, TypeName.relocate, Option.map_some]
      cases Ty.ofName? written.name with
      | none => simp [TypeError.relocate]
      | some declared => simp [Node.location_relocate, conform_relocate]
  | assignment name expr l ih =>
    simp only [Node.relocate, infer, ih]
    cases hscope : (infer scope expr).scope with
    | none => simp [hscope]
    | some table =>
      cases hname : table.get? name with
      | none => simp [hname, TypeError.relocate]
      | some recorded => simp [hname, Node.location_relocate, reassign_relocate]
  | reference name l =>
    simp only [Node.relocate, infer]
    cases scope with
    | none => rfl
    | some table =>
      cases hname : table.get? name with
      | none => simp [hname, TypeError.relocate]
      | some recorded => simp [hname]

lemma inferAll_relocate (scope : Scope) (nodes : List Node) :
    inferAll scope (nodes.map (Node.relocate f))
      = ((inferAll scope nodes).1, (inferAll scope nodes).2.map (TypeError.relocate f)) := by
  induction nodes generalizing scope with
  | nil => rfl
  | cons n nodes ih => simp [inferAll, infer_relocate, ih]

/-- Without a symbol table there never is one. -/
lemma infer_none_scope (n : Node) : (infer none n).scope = none := by
  induction n with
  | literal v l => cases v <;> rfl
  | binary left op right l ihl ihr => simp [infer, ihl, ihr]
  | declaration name type expr l ih =>
    obtain ⟨r, hr⟩ := infer_declaration_scope none name type expr l
    rw [hr, ih]
    rfl
  | assignment name expr l ih => simp [infer, ih]
  | reference name l => rfl

lemma inferAll_none_scope (nodes : List Node) : (inferAll none nodes).1 = none := by
  induction nodes with
  | nil => rfl
  | cons n nodes ih =>
    rw [inferAll, infer_none_scope]
    exact ih

lemma check_append (nodes nodes' : List Node) :
    check false (nodes ++ nodes'.map (Node.relocate f))
      = check false nodes ++ (check false nodes').map (TypeError.relocate f) := by
  have hscope : (inferAll (Scope.initial false) nodes).1 = Scope.initial false :=
    inferAll_none_scope nodes
  rw [check_eq, check_eq, check_eq, inferAll_append, hscope, inferAll_relocate]

end Checker

/-! ### The program -/

/-- **Scripts can be compiled one behind the other.**  If two scripts compile, then so does the first
one with the second one behind it on a new line.  Its expressions are those of the first script and
then those of the second one, moved down by the lines of the first.  If no names are recorded, then so
are its type errors. -/
theorem compile_append {s : Settings} {first second : Text} {p q : Program}
    (hp : compile s first = .ok p) (hq : compile s second = .ok q) :
    let down := Location.down (1 + first.bytes.count 10)
    ∃ r, compile s (first ++ "\n" ++ second) = .ok r ∧
      r.nodes = p.nodes ++ q.nodes.map (Node.relocate down) ∧
      (s.switches.symbolTable = false →
        r.typeErrors = p.typeErrors ++ q.typeErrors.map (TypeError.relocate down)) := by
  intro down
  obtain ⟨ts, nodes, hts, hnodes, rfl⟩ := compile_eq_ok_iff.1 hp
  obtain ⟨us, nodes', hus, hnodes', rfl⟩ := compile_eq_ok_iff.1 hq
  obtain ⟨lexemes, stop, rfl, hkinds, htokens⟩ := tokenize_append_newline hts hus
  have hparse : parse s.grammar (lexemes ++ us.map (Token.relocate down))
      = .ok (nodes ++ nodes'.map (Node.relocate down)) := parse_append hkinds hnodes hnodes'
  refine ⟨_, compile_eq_ok_iff.2 ⟨_, _, htokens, hparse, rfl⟩, rfl, fun hsymbols => ?_⟩
  simp only [hsymbols]
  exact check_append nodes nodes'

/-- A sum over two lines whose operands do not fit, and a comment that ends the script. -/
def mixedSum : Text := "1 +\n\"a\"\n# end"

/-- A declaration whose expression does not fit the written type. -/
def wrongType : Text := "let b: String = 2"

/-- The type error of the declaration moves from the first line to the fourth. -/
theorem compile_append_mixedSum_wrongType :
    ∃ p q r, compile {} mixedSum = .ok p ∧ compile {} wrongType = .ok q ∧
      compile {} (mixedSum ++ "\n" ++ wrongType) = .ok r ∧
      r.nodes = p.nodes ++ q.nodes.map (Node.relocate (Location.down 3)) ∧
      r.typeErrors
        = [.mismatched ⟨1, 3⟩ "Integer" "String", .mismatched ⟨4, 17⟩ "String" "Integer"] := by
  have hsum : (compile {} mixedSum).toOption.map Program.nodes
      = some [.binary (.literal (.integer 1) ⟨1, 1⟩) .plus (.literal (.string "a") ⟨2, 1⟩) ⟨1, 3⟩] := by
    decide +kernel
  have hwrong : (compile {} wrongType).toOption.map Program.nodes
      = some [.declaration "b" (some ⟨"String", ⟨1, 8⟩⟩) (.literal (.integer 2) ⟨1, 17⟩) ⟨1, 1⟩] := by
    decide +kernel
  obtain ⟨p, hp, -, hperrors⟩ := exists_compile_eq_ok hsum
  obtain ⟨q, hq, -, hqerrors⟩ := exists_compile_eq_ok hwrong
  obtain ⟨r, hr, hnodes, herrors⟩ := compile_append hp hq
  refine ⟨p, q, r, hp, hq, hr, hnodes, ?_⟩
  rw [herrors rfl, hperrors, hqerrors]
  decide +kernel

end LetScript
