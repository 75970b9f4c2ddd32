import LetScript.Directive
import LetScript.Proofs.Text.Fields
import LetScript.Proofs.Text.Lines
import LetScript.Proofs.Token.Tiling

/-!
# Directives and comments

The directives of a script are looked for on its lines, whatever stands there, while a comment is
what the scanner skips.  A line with a directive begins with `#`, so if the scanner comes to it
between two tokens, it skips the line to its end.  The only other way for it to get there is inside a
string, which may go on over several lines.

So a directive stands in a comment unless it stands in a string (`Reads.commentLine_iff`).
-/

namespace LetScript

/-- The line of characters that begins at `start` belongs to a comment that begins there. -/
def CommentLine (script : List Char) (spans : List Span) (start : Nat) (line : List Char) : Prop :=
  ∀ i, start ≤ i → i < start + line.length → Comment script spans start i

/-- A character stands in a string, behind its opening quote. -/
def InString (tokens : List Token) (spans : List Span) (i : Nat) : Prop :=
  ∃ t s, (t, s) ∈ tokens.zip spans ∧ t.kind = .string ∧ s.start < i ∧ i < s.stop

/-! ### Characters of tokens -/

lemma Span.Covers.mem_chars {s : Span} {i : Nat} (h : s.Covers i) {script : List Char} {c : Char}
    (hc : script[i]? = some c) : c ∈ s.chars script := by
  obtain ⟨hstart, hstop⟩ := h
  have hget : (s.chars script)[i - s.start]? = some c := by
    rw [Span.chars, List.getElem?_take_of_lt (by omega), List.getElem?_drop,
      Nat.add_sub_cancel' hstart, hc]
  exact List.mem_of_getElem? hget

/-- Of all tokens, only a string can have a `#`. -/
lemma Spells.string_of_hash {cs : List Char} {next : Option Char} {kind : TokenKind} {value : Text}
    (h : Spells cs next kind value) (hhash : '#' ∈ cs) : kind = .string ∧ cs.head? = some '"' := by
  cases h with
  | string => exact ⟨rfl, rfl⟩
  | integer _ hdigits _ => exact absurd (hdigits '#' hhash) (by decide)
  | identifier _ hword _ _ => exact absurd (hword '#' hhash) (by decide +kernel)
  | keyword => simp at hhash
  | sign hsign =>
    obtain rfl := List.mem_singleton.1 hhash
    simp [signs] at hsign

lemma Spells.newline_mem {cs : List Char} {next : Option Char} {kind : TokenKind} {value : Text}
    (h : Spells cs next kind value) (hkind : kind = .string) (hnewline : '\n' ∈ cs) :
    10 ∈ value.bytes := by
  cases h with
  | @string body _ _ =>
    have hbody : '\n' ∈ body := by simpa using hnewline
    exact List.mem_flatMap.2 ⟨'\n', hbody, by decide⟩
  | sign hsign =>
    subst hkind
    simp [signs] at hsign
  | _ => cases hkind

section Tiling

variable {script : List Char} {k : Nat} {tokens : List Token} {spans : List Span}

/-- A `#` that belongs to a token stands in a string. -/
lemma Tiles.inString_of_covers (h : Tiles script k tokens spans) {s : Span} (hs : s ∈ spans) {i : Nat}
    (hcovers : s.Covers i) (hhash : script[i]? = some '#') : InString tokens spans i := by
  obtain ⟨t, hzip, hstands⟩ := h.exists_token hs
  obtain ⟨hkind, hquote⟩ := hstands.spells.string_of_hash (hcovers.mem_chars hhash)
  refine ⟨t, s, hzip, hkind, Nat.lt_of_le_of_ne hcovers.1 ?_, hcovers.2⟩
  -- the first character of the string is its quote
  rintro rfl
  have hlen : 0 < s.stop - s.start := Nat.sub_pos_of_lt hstands.start_lt
  rw [Span.chars, List.head?_take, if_neg (by omega), List.head?_drop, hhash] at hquote
  cases hquote

/-- A string in which a line begins has a newline. -/
lemma Tiles.newline_mem_of_inString (h : Tiles script k tokens spans) {i : Nat}
    (hin : InString tokens spans i) (hline : i = 0 ∨ script[i - 1]? = some '\n') :
    ∃ t ∈ tokens, t.kind = .string ∧ 10 ∈ t.value.bytes := by
  obtain ⟨t, s, hzip, hkind, hstart, hstop⟩ := hin
  have hstands : StandsIn script t s := (List.forall₂_iff_zip.1 h.standsIn).2 hzip
  have hnewline : script[i - 1]? = some '\n' := hline.resolve_left (by omega)
  have hcovers : s.Covers (i - 1) := ⟨by omega, by omega⟩
  exact ⟨t, (List.of_mem_zip hzip).1, hkind,
    hstands.spells.newline_mem hkind (hcovers.mem_chars hnewline)⟩

/-- A character that begins a line, and is neither blank nor `#`, belongs to a token. -/
lemma Tiles.exists_covers (h : Tiles script k tokens spans) {i : Nat} {c : Char} (hki : k ≤ i)
    (hc : script[i]? = some c) (hblank : isBlank c = false) (hhash : c ≠ '#')
    (hline : i = 0 ∨ script[i - 1]? = some '\n') : ∃ s ∈ spans, s.Covers i := by
  by_contra hnone
  have hfree : ∀ s ∈ spans, ¬ s.Covers i := fun s hs hcovers => hnone ⟨s, hs, hcovers⟩
  rcases h.gaps i c hki hc hfree with hb | ⟨j, -, hcomment⟩
  · rw [hblank] at hb
    cases hb
  · rcases Nat.eq_or_lt_of_le hcomment.start_le with rfl | hlt
    · exact hhash (Option.some.inj (hc.symm.trans hcomment.hash))
    · exact hcomment.oneLine (i - 1) (by omega) (by omega) (hline.resolve_left (by omega))

/-- A `#` that belongs to no token begins or continues a comment, so no token stands behind it on its
line. -/
lemma Reads.uncovered_of_hash (h : Reads script script.length k tokens spans) {j : Nat} (hkj : k ≤ j)
    (hhash : script[j]? = some '#') (hfree : ∀ s ∈ spans, ¬ s.Covers j) {i : Nat} (hji : j ≤ i)
    (hline : ∀ m, j ≤ m → m ≤ i → script[m]? ≠ some '\n') : ∀ s ∈ spans, ¬ s.Covers i := by
  induction h with
  | here => simp
  | @blank k c _ _ hc hblank _ ih =>
    have hne : k ≠ j := by
      rintro rfl
      obtain rfl : c = '#' := Option.some.inj (hc.symm.trans hhash)
      exact absurd hblank (by decide +kernel)
    exact ih (by omega) hfree
  | @comment k body rest _ _ hdrop _ hrest _ hreads ih =>
    by_cases hstop : k + ('#' :: body).length ≤ j
    · exact ih hstop hfree
    · -- the line ends where the comment does, and the tokens come behind it
      intro s hs hcovers
      have hstart := hreads.tiles.start_le s hs
      obtain ⟨t, -, hstands⟩ := hreads.tiles.exists_token hs
      have hlt : k + ('#' :: body).length < script.length := by
        have := hcovers.1
        have := hcovers.2
        have := hstands.stop_le
        omega
      have hend : script[k + ('#' :: body).length]? = rest.head? := by
        rw [← List.head?_drop, drop_eq_append hdrop]
      rw [List.getElem?_eq_getElem hlt] at hend
      have hnewline := hrest _ hend.symm
      refine hline _ (by omega) (Nat.le_trans hstart hcovers.1) ?_
      rw [List.getElem?_eq_getElem hlt, hnewline]
  | @token k stop _ _ _ _ _ ih =>
    obtain ⟨hfirst, hothers⟩ := List.forall_mem_cons.1 hfree
    have hstop : stop ≤ j := Nat.le_of_not_lt fun hlt => hfirst ⟨hkj, hlt⟩
    refine List.forall_mem_cons.2 ⟨fun hcovers => ?_, ih hstop hothers⟩
    exact absurd hcovers.2 (Nat.not_lt.2 (Nat.le_trans hstop hji))

/-! ### Lines with a directive -/

lemma IsLine.getElem? {before cs after : List Char} (h : IsLine '\n' script k before cs after)
    {i : Nat} (hi : i < cs.length) : script[before.length + i]? = cs[i]? := by
  rw [h.split, List.getElem?_append_right (by omega), Nat.add_sub_cancel_left,
    List.getElem?_append_left hi]

lemma IsLine.start {before line after : List Char} (h : IsLine '\n' script k before line after) :
    before.length = 0 ∨ script[before.length - 1]? = some '\n' := by
  rcases h.begins with rfl | ⟨items, rfl⟩
  · exact .inl rfl
  · right
    rw [h.split]
    simp

/-- **A line that begins with `#` is a comment unless it begins in a string.** -/
theorem Reads.commentLine_iff (h : Reads script script.length 0 tokens spans)
    {before line after : List Char}
    (hline : IsLine '\n' script k before line after) (hhash : line.head? = some '#') :
    CommentLine script spans before.length line ↔ ¬ InString tokens spans before.length := by
  obtain ⟨rest, rfl⟩ : ∃ rest, line = '#' :: rest := List.head?_eq_some_iff.1 hhash
  have hfirst : script[before.length]? = some '#' := hline.getElem? (Nat.succ_pos _)
  have hone : ∀ m, before.length ≤ m → m < before.length + ('#' :: rest).length →
      script[m]? ≠ some '\n' := by
    intro m hm hlt hnewline
    have hget := hline.getElem? (show m - before.length < ('#' :: rest).length by omega)
    rw [Nat.add_sub_cancel' hm, hnewline] at hget
    exact hline.newline_notMem (List.mem_of_getElem? hget.symm)
  constructor
  · rintro hcomment ⟨t, s, hzip, -, hstart, hstop⟩
    have hnone := (hcomment before.length (Nat.le_refl _) (by simp)).uncovered before.length
      (Nat.le_refl _) (Nat.le_refl _) s (List.of_mem_zip hzip).2
    exact hnone ⟨Nat.le_of_lt hstart, hstop⟩
  · intro hstring i hi hlt
    have hfree : ∀ s ∈ spans, ¬ s.Covers before.length := fun s hs hcovers =>
      hstring (h.tiles.inString_of_covers hs hcovers hfirst)
    refine ⟨hi, hfirst, hline.start, fun m hm hmi => hone m hm (by omega), fun m hm hmi => ?_⟩
    exact h.uncovered_of_hash (Nat.zero_le _) hfirst hfree hm
      fun m' hm' hle => hone m' hm' (by omega)

end Tiling

/-- A line with a directive begins with `#`. -/
lemma Directive.head?_of_ofLine? {line : Text} {d : Directive} (h : Directive.ofLine? line = some d) :
    line.chars.head? = some '#' := by
  obtain ⟨rest, hrest, -⟩ := Option.bind_eq_some_iff.1 h
  rw [Text.dropStart?_eq_some_iff.1 hrest]
  rfl

/-- **A directive stands in a comment or in a string.**  In a script whose tokens can be read, a line
with a directive is a comment from its first character to its last, and no part of it belongs to a
token, unless it begins inside a string.  So if no string goes on over a newline, then every
directive stands in a comment. -/
theorem tokenize_directive_comment_iff {script : Text} {tokens : List Token}
    (h : tokenize script = .ok tokens) :
    ∃ lexemes spans,
      tokens = lexemes ++ [Token.endAt (placeAt script.chars script.chars.length)] ∧
      Tiles script.chars 0 lexemes spans ∧
      ∀ k line d, script.lines[k]? = some line → Directive.ofLine? line = some d →
        ∃ before after, IsLine '\n' script.chars k before line.chars after ∧
          (CommentLine script.chars spans before.length line.chars ↔
            ¬ InString lexemes spans before.length) ∧
          ((∀ t ∈ lexemes, t.kind = .string → 10 ∉ t.value.bytes) →
            CommentLine script.chars spans before.length line.chars) := by
  obtain ⟨lexemes, spans, htokens, hreads⟩ := tokenize_reads h
  refine ⟨lexemes, spans, htokens, hreads.tiles, ?_⟩
  intro k line d hline hdirective
  obtain ⟨before, after, hisLine⟩ := Text.exists_isLine_of_lines hline
  have hiff := hreads.commentLine_iff hisLine (Directive.head?_of_ofLine? hdirective)
  refine ⟨before, after, hisLine, hiff, fun hstrings => hiff.2 fun hin => ?_⟩
  obtain ⟨t, ht, hkind, hnewline⟩ := hreads.tiles.newline_mem_of_inString hin hisLine.start
  exact hstrings t ht hkind hnewline

/-- A directive in a comment, and a string over two lines with a directive on the second one. -/
def twoDirectives : Text := "## Typechecker: Pass\n\"a\n## Typechecker: Fail\""

/-- The first line of the two directives. -/
def passLine : Text := "## Typechecker: Pass"

/-- The only token of the two directives that stands in a span. -/
def failToken : Token := ⟨.string, "a\n## Typechecker: Fail", ⟨2, 1⟩⟩

/-- The first directive stands in a comment, whatever the string has. -/
theorem tokenize_directive_comment_iff_twoDirectives :
    tokenize twoDirectives = .ok ([failToken] ++ [Token.endAt ⟨3, 22⟩]) ∧
    twoDirectives.lines[0]? = some passLine ∧
    Directive.ofLine? passLine = some (.requirement .pass) ∧
    ∃ spans, Tiles twoDirectives.chars 0 [failToken] spans ∧
      CommentLine twoDirectives.chars spans 0 passLine.chars := by
  have htokens : tokenize twoDirectives = .ok ([failToken] ++ [Token.endAt ⟨3, 22⟩]) :=
    tokenize_eq_ok (by decide +kernel)
  have hline : twoDirectives.lines[0]? = some passLine := by decide +kernel
  have hdirective : Directive.ofLine? passLine = some (.requirement .pass) := by decide +kernel
  obtain ⟨lexemes, spans, hsplit, htiles, hlines⟩ := tokenize_directive_comment_iff htokens
  obtain rfl : [failToken] = lexemes := (List.append_inj' hsplit rfl).1
  obtain ⟨before, after, hisLine, hiff, -⟩ := hlines 0 passLine _ hline hdirective
  obtain rfl : before = [] := hisLine.before_eq_nil
  refine ⟨htokens, hline, hdirective, spans, htiles, hiff.2 ?_⟩
  rintro ⟨t, s, -, -, hstart, -⟩
  exact Nat.not_lt_zero _ hstart

/-- A string over three lines with a directive on the second one. -/
def quotedDirective : Text := "\"\n## Typechecker: Fail\n\""

/-- The second line of the quoted directive. -/
def failLine : Text := "## Typechecker: Fail"

/-- The only token of the quoted directive that stands in a span. -/
def quotedToken : Token := ⟨.string, "\n## Typechecker: Fail\n", ⟨1, 1⟩⟩

/-- The line with the directive belongs to the string. -/
theorem tokenize_quotedDirective :
    tokenize quotedDirective = .ok ([quotedToken] ++ [Token.endAt ⟨3, 2⟩]) ∧
    quotedDirective.lines[1]? = some failLine ∧
    Directive.ofLine? failLine = some (.requirement .fail) ∧
    Directive.ofScript quotedDirective = [.requirement .fail] ∧
    ∀ spans, Tiles quotedDirective.chars 0 [quotedToken] spans →
      ¬ CommentLine quotedDirective.chars spans 2 failLine.chars := by
  refine ⟨tokenize_eq_ok (by decide +kernel), by decide +kernel, by decide +kernel,
    by decide +kernel, ?_⟩
  intro spans htiles hcomment
  obtain ⟨s, rfl⟩ : ∃ s, spans = [s] := by
    rw [← List.length_eq_one_iff, ← htiles.standsIn.length_eq]
    rfl
  -- the two quotes begin lines, so they both belong to the one token
  obtain ⟨s₀, hs₀, hfirst⟩ := htiles.exists_covers (c := '"') (Nat.zero_le 0) (by decide +kernel)
    (by decide +kernel) (by decide) (.inl rfl)
  obtain ⟨s₁, hs₁, hlast⟩ := htiles.exists_covers (c := '"') (Nat.zero_le 23) (by decide +kernel)
    (by decide +kernel) (by decide) (.inr (by decide +kernel))
  obtain rfl : s₀ = s := List.mem_singleton.1 hs₀
  obtain rfl : s₁ = s₀ := List.mem_singleton.1 hs₁
  have hfree := (hcomment 2 (Nat.le_refl _) (by decide +kernel)).uncovered 2 (Nat.le_refl _)
    (Nat.le_refl _)
  have hstart := hfirst.1
  have hstop := hlast.2
  exact hfree s₁ hs₁ ⟨by omega, by omega⟩

end LetScript
