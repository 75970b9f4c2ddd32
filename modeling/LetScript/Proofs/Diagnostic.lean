import LetScript.Proofs.Node.Phases
import LetScript.Proofs.Text.Lines
import LetScript.Proofs.Typing.Order

/-!
# Diagnostics point into the script

Whatever is wrong with a script, the place that is reported is the place of one of its tokens: of the
fault that the scanner stops at, of the token that the parser blames, which may be the end of the
script, or of a token that the trees keep.  A token is placed by counting characters and newlines from
the beginning of the script, and is shown by cutting the bytes of the script at the newlines.  Both
ways lead to the same line.

So a diagnostic is always shown with its line: `compile_points_into_script`.
-/

namespace LetScript

/-! ### Places on lines -/

namespace Text

lemma length_splitLines (bytes : List UInt8) :
    (splitLines bytes).length = bytes.count 10 + 1 := by
  induction bytes with
  | nil => rfl
  | cons b rest ih =>
    rw [splitLines]
    by_cases hb : b = 10
    · rw [if_pos hb, hb, List.count_cons_self, List.length_cons, ih]
    · rw [if_neg hb, List.count_cons_of_ne hb, ← ih]
      rcases hlines : splitLines rest with _ | ⟨first, lines⟩
      · exact absurd hlines (splitLines_ne_nil rest)
      · rfl

/-- A text has one line more than it has newlines. -/
lemma length_lines (t : Text) : t.lines.length = t.chars.count '\n' + 1 := by
  rw [lines, List.length_map, length_splitLines, count_newline_chars]

end Text

namespace IsLine

variable {α : Type} [BEq α] [LawfulBEq α] {newline : α} {items before line after : List α} {k i : Nat}

/-- With as many newlines before it as a line has, an item does not stand before the line. -/
lemma length_before_le (h : IsLine newline items k before line after)
    (hk : (items.take i).count newline = k) : before.length ≤ i := by
  by_contra hlt
  rcases h.begins with hnil | ⟨items', hbefore⟩
  · simp [hnil] at hlt
  · have hshort : i ≤ items'.length := by
      rw [hbefore, List.length_append, List.length_singleton] at hlt
      omega
    have htake : items.take i = items'.take i := by
      rw [h.split, hbefore, List.append_assoc, List.take_append_of_le_length hshort]
    have hle : (items'.take i).count newline ≤ items'.count newline :=
      (List.take_sublist i items').count_le newline
    have hnumber := h.number
    rw [hbefore, List.count_append, List.count_singleton_self] at hnumber
    rw [htake] at hk
    omega

/-- Nor does it stand behind the line. -/
lemma le_length_line (h : IsLine newline items k before line after) (hi : i ≤ items.length)
    (hk : (items.take i).count newline = k) : i ≤ before.length + line.length := by
  by_contra hlt
  rcases h.ends with hnil | ⟨items', hafter⟩
  · rw [h.split, hnil] at hi
    simp only [List.append_nil, List.length_append] at hi
    exact hlt hi
  · have hsplit : items = (before ++ line ++ [newline]) ++ items' := by
      rw [h.split, hafter]
      simp
    have hlong : (before ++ line ++ [newline]).length ≤ i := by
      simp only [List.length_append, List.length_singleton]
      omega
    have hprefix : (before ++ line ++ [newline]).Sublist (items.take i) := by
      rw [hsplit, List.take_append, List.take_of_length_le hlong]
      exact List.sublist_append_left _ _
    have hle := hprefix.count_le newline
    rw [List.count_append, List.count_append, List.count_singleton_self, h.number, hk] at hle
    omega

/-- The place of a character from its line: lines and columns are counted from one. -/
lemma placeAt_eq {script before line after : List Char}
    (h : IsLine '\n' script k before line after) {j : Nat} (hj : j ≤ line.length) :
    placeAt script (before.length + j) = ⟨k + 1, j + 1⟩ := by
  have htake : script.take (before.length + j) = before ++ line.take j := by
    rw [h.split, List.take_length_add_append, List.take_append_of_le_length hj]
  have hnone : '\n' ∉ line.take j := fun hmem => h.newline_notMem (List.mem_of_mem_take hmem)
  have hcolumn : ((before ++ line.take j).reverse.takeWhile (· ≠ '\n')) = (line.take j).reverse := by
    rw [List.reverse_append, List.takeWhile_append_of_pos]
    · rcases h.begins with rfl | ⟨items', rfl⟩ <;> simp
    · intro c hc
      have hmem : c ∈ line.take j := List.mem_reverse.1 hc
      simpa using fun heq : c = '\n' => hnone (heq ▸ hmem)
  rw [placeAt, htake, hcolumn, List.count_append, h.number, List.count_eq_zero.2 hnone,
    List.length_reverse, List.length_take, Nat.min_eq_left hj]
  simp [Int.add_comm]

end IsLine

/-- The character number `i` of a script stands on a line, and `l` is its place: it is within the lines
of the script, and within the characters of the line or right behind them. -/
structure StandsOn (script : Text) (i : Nat) (l : Location) (line : Text) : Prop where
  one_le_line : 1 ≤ l.line
  line_le : l.line ≤ script.lines.length
  line_eq : script.lines[(l.line - 1).toNat]? = some line
  one_le_column : 1 ≤ l.column
  column_le : l.column ≤ 1 + line.chars.length
  isLine : ∃ before after, IsLine '\n' script.chars (l.line - 1).toNat before line.chars after ∧
    i = before.length + (l.column - 1).toNat

/-- **Every place of a script is on one of its lines.** -/
theorem exists_standsOn (script : Text) {i : Nat} (hi : i ≤ script.chars.length) :
    ∃ line, StandsOn script i (placeAt script.chars i) line := by
  obtain ⟨k, hk⟩ : ∃ k, (script.chars.take i).count '\n' = k := ⟨_, rfl⟩
  have hlt : k < script.lines.length := by
    have hle : (script.chars.take i).count '\n' ≤ script.chars.count '\n' :=
      (List.take_sublist i _).count_le '\n'
    rw [Text.length_lines]
    omega
  have hline : script.lines[k]? = some script.lines[k] := List.getElem?_eq_getElem hlt
  obtain ⟨before, after, hisLine⟩ := Text.exists_isLine_of_lines hline
  have hbefore : before.length ≤ i := hisLine.length_before_le hk
  have hafter : i ≤ before.length + script.lines[k].chars.length := hisLine.le_length_line hi hk
  obtain ⟨j, rfl⟩ := Nat.exists_eq_add_of_le hbefore
  have hj : j ≤ script.lines[k].chars.length := by omega
  refine ⟨script.lines[k], ?_⟩
  rw [hisLine.placeAt_eq hj]
  refine ⟨?_, ?_, ?_, ?_, ?_, before, after, ?_, ?_⟩
  · dsimp only
    omega
  · dsimp only
    omega
  · simp
  · dsimp only
    omega
  · dsimp only
    omega
  · simpa using hisLine
  · simp

/-! ### Tokens of a script -/

/-- The token begins with the character number `i`: it is the lexeme there, a fault perhaps, or it is
the end of the script. -/
inductive BeginsAt (script : List Char) : Token → Nat → Prop
  | lexeme {i : Nat} {c : Char} {rest : List Char} (hdrop : script.drop i = c :: rest) :
      BeginsAt script ⟨(lexeme c rest).kind, (lexeme c rest).value, placeAt script i⟩ i
  | finish : BeginsAt script (Token.endAt (placeAt script script.length)) script.length

lemma BeginsAt.le_length {script : List Char} {t : Token} {i : Nat} (h : BeginsAt script t i) :
    i ≤ script.length := by
  cases h with
  | lexeme hdrop => exact Nat.le_of_lt (List.getElem?_eq_some_iff.1 (drop_eq_cons hdrop).1).1
  | finish => exact Nat.le_refl _

lemma BeginsAt.location {script : List Char} {t : Token} {i : Nat} (h : BeginsAt script t i) :
    t.location = placeAt script i := by
  cases h <;> rfl

/-- Every token of a scan, with a fault or without, begins at a character of the script. -/
lemma scan_beginsAt {script cs : List Char} {k : Nat} {l : Location} (hdrop : script.drop k = cs)
    (hk : k ≤ script.length) (hl : l = placeAt script k) :
    ∀ t ∈ (scan l cs).tokens, ∃ i, BeginsAt script t i := by
  fun_induction scan l cs generalizing k with
  | case1 l =>
    subst hl
    obtain rfl : k = script.length := Nat.le_antisymm hk (List.drop_eq_nil_iff.1 hdrop)
    intro t ht
    obtain rfl := List.mem_singleton.1 ht
    exact ⟨script.length, .finish⟩
  | case2 l c rest hcomment ih =>
    subst hl
    have hsplit : script.drop k
        = c :: rest.takeWhile (· ≠ '\n') ++ rest.dropWhile (· ≠ '\n') := by
      rw [hdrop, List.cons_append, List.takeWhile_append_dropWhile]
    exact ih (drop_eq_append hsplit) (le_of_drop_eq_append hsplit hk) (placeAt_add hsplit).symm
  | case3 l c rest hcomment hblank ih =>
    subst hl
    obtain ⟨hc, hrest⟩ := drop_eq_cons hdrop
    exact ih hrest (List.getElem?_eq_some_iff.1 hc).1 (placeAt_succ hc).symm
  | case4 l c rest =>
    subst hl
    intro t ht
    obtain rfl := List.mem_singleton.1 ht
    exact ⟨k, .lexeme hdrop⟩
  | case5 l c rest _ _ x token herror s =>
    rename_i ih
    subst hl
    have hvalid : x.Valid (c :: rest) := (lexeme_cases c rest).resolve_left herror
    have hsplit : script.drop k = x.spelling ++ x.rest := hdrop.trans hvalid.split
    intro t ht
    rcases List.mem_cons.1 ht with rfl | ht
    · exact ⟨k, .lexeme hdrop⟩
    · exact ih (drop_eq_append hsplit) (le_of_drop_eq_append hsplit hk) (placeAt_add hsplit).symm t ht

/-- A fault is the last token of its scan. -/
lemma exists_token_of_scan_error {l : Location} {cs : List Char} {e : LexError}
    (h : (scan l cs).error = some e) :
    ∃ t ∈ (scan l cs).tokens, t.kind = .error ∧ t.location = e.location := by
  fun_induction scan l cs with
  | case1 => cases h
  | case2 l c rest _ ih => exact ih h
  | case3 l c rest _ _ ih => exact ih h
  | case4 l c rest _ _ x token herror =>
    cases h
    exact ⟨token, List.mem_singleton_self token, herror, rfl⟩
  | case5 l c rest _ _ x token herror s =>
    rename_i ih
    obtain ⟨t, ht, hl⟩ := ih h
    exact ⟨t, List.mem_cons_of_mem _ ht, hl⟩

lemma exists_beginsAt {script : Text} {t : Token} (ht : t ∈ (Lexer.ofText script).run.2.tokens) :
    ∃ i, BeginsAt script.chars t i :=
  scan_beginsAt List.drop_zero (Nat.zero_le _) (placeAt_zero _).symm t ht

/-! ### Failures of scripts -/

/-- What is reported about a script: why it cannot be read, or its type errors. -/
def failures (s : Settings) (script : Text) : List Failure :=
  match compile s script with
  | .error r => [r.failure]
  | .ok p => p.typeErrors.map .type

variable {s : Settings} {g : Grammar} {script : Text} {tokens : List Token} {f : Failure}

lemma exists_token_of_tokenize_error {e : LexError} (h : tokenize script = .error e) :
    ∃ t ∈ (Lexer.ofText script).run.2.tokens, t.kind = .error ∧ t.location = e.location :=
  exists_token_of_scan_error (tokenize_eq_error_iff.1 h)

/-- The parser blames a token of the script: since the tokens end with the end of the script, they
never run out. -/
lemma token_mem_of_parse_error {e : ParseError} (htokens : tokenize script = .ok tokens)
    (h : parse g tokens = .error e) : e.token ∈ tokens := by
  rcases parse_error_cases h with ⟨before, t, after, p, -, -, -, hfails⟩ | ⟨p, -, hruns⟩
  · exact List.mem_of_getElem? hfails.token
  · obtain ⟨lexemes, spans, rfl, -⟩ := tokenize_reads htokens
    exact absurd rfl (hruns.unended _ (List.mem_append_right _ List.mem_cons_self))

/-- A type error stands at a token that a tree keeps. -/
lemma exists_token_of_mem_check {nodes : List Node} (h : parse g tokens = .ok nodes)
    {symbols : Bool} {e : TypeError} (he : e ∈ check symbols nodes) :
    ∃ t ∈ tokens, t.location = e.location := by
  rw [check_eq] at he
  have hplaces : e.location ∈ nodes.flatMap Node.places := location_mem_places_of_mem_inferAll he
  have hsublist := (parse_eq_ok_iff_written.1 h).1.places_sublist
  rw [List.filterMap_flatMap] at hsublist
  obtain ⟨t, ht, hl⟩ := List.mem_map.1 (hsublist.subset hplaces)
  exact ⟨t, (List.takeWhile_sublist _).subset ht, hl⟩

/-- The token is what the failure is about: the fault, or the token that the parser blames.  A type error
names no token. -/
def Failure.Blames (t : Token) : Failure → Prop
  | .lex _ => t.kind = .error
  | .parse e => t = e.token
  | _ => True

/-- What is reported about a script is about one of its tokens, and is placed there. -/
lemma exists_token_of_mem_failures (h : f ∈ failures s script) :
    ∃ t ∈ (Lexer.ofText script).run.2.tokens,
      f.Blames t ∧ t.location = (Diagnostic.ofFailure f).location := by
  rw [failures, compile] at h
  rcases htokens : tokenize script with e | tokens
  · obtain rfl : f = .lex e := by simpa [htokens] using h
    exact exists_token_of_tokenize_error htokens
  · rw [tokens_run_ofText, (tokenize_eq_ok_iff.1 htokens).2]
    rcases hnodes : parse s.grammar tokens with e | nodes
    · obtain rfl : f = .parse e := by simpa [htokens, hnodes] using h
      exact ⟨e.token, token_mem_of_parse_error htokens hnodes, rfl, rfl⟩
    · obtain ⟨e, he, rfl⟩ : ∃ e ∈ check s.switches.symbolTable nodes, .type e = f := by
        simpa [htokens, hnodes] using h
      obtain ⟨t, ht, hl⟩ := exists_token_of_mem_check hnodes he
      exact ⟨t, ht, trivial, hl⟩

lemma StandsOn.lineAt?_eq {i : Nat} {l : Location} {line : Text} (h : StandsOn script i l line) :
    Diagnostic.lineAt? script l.line = some line := by
  have hpos := h.one_le_line
  have hnumber : l.line.toNat - 1 = (l.line - 1).toNat := by omega
  rw [Diagnostic.lineAt?, if_neg (by omega), hnumber]
  exact h.line_eq

/-- **Every diagnostic points into its script.**  Whatever is reported about a script, with whatever
settings, is placed at a token of the script, and at the blamed one if the script cannot be read.  The
place is on a line of the script, at a character of this line or right behind it, and it is where the
token begins.  So the diagnostic is shown with this line and with the caret under the token, never
with its message alone. -/
theorem compile_points_into_script (h : f ∈ failures s script) :
    ∃ l message t i line,
      Diagnostic.ofFailure f = ⟨l, message⟩ ∧
      t ∈ (Lexer.ofText script).run.2.tokens ∧ f.Blames t ∧ t.location = l ∧
      BeginsAt script.chars t i ∧ StandsOn script i l line ∧
      Diagnostic.lineAt? script l.line = some line ∧
      f.render script =
        "error at line " ++ Text.ofInt l.line ++ " column " ++ Text.ofInt l.column ++ ":\n"
          ++ (line ++ "\n" ++ Text.replicate (l.column - 1).toNat 0x20 ++ "^\n"
            ++ Text.replicate (l.column - 1).toNat 0x20 ++ message ++ "\n") := by
  obtain ⟨t, ht, hblames, hl⟩ := exists_token_of_mem_failures h
  obtain ⟨i, hbegins⟩ := exists_beginsAt ht
  obtain ⟨line, hline⟩ := exists_standsOn script hbegins.le_length
  rw [← hbegins.location, hl] at hline
  have hlineAt := hline.lineAt?_eq
  refine ⟨(Diagnostic.ofFailure f).location, (Diagnostic.ofFailure f).message, t, i, line, rfl, ht,
    hblames, hl, hbegins, hline, hlineAt, ?_⟩
  rw [Failure.render, Diagnostic.render, hlineAt]

/-- Two lines, and an operator between a string and a number on the second one.  The string has more
bytes than characters. -/
def joined : Text := "let a = 1\n\"ééé\" + 2\n"

/-- The operator is the seventh character of the second line. -/
theorem compile_points_into_script_joined :
    .type (.mismatched ⟨2, 7⟩ "String" "Integer") ∈ failures {} joined ∧
      ∃ t i line, t ∈ (Lexer.ofText joined).run.2.tokens ∧ BeginsAt joined.chars t i ∧
        StandsOn joined i ⟨2, 7⟩ line ∧ Diagnostic.lineAt? joined 2 = some line := by
  have hmem : .type (.mismatched ⟨2, 7⟩ "String" "Integer") ∈ failures {} joined := by
    decide +kernel
  obtain ⟨l, message, t, i, line, hl, ht, -, -, hbegins, hline, hlineAt, -⟩ :=
    compile_points_into_script hmem
  obtain rfl : (⟨2, 7⟩ : Location) = l := congrArg Diagnostic.location hl
  exact ⟨hmem, t, i, line, ht, hbegins, hline, hlineAt⟩

end LetScript
