import LetScript.Proofs.Token.Lexer
import Mathlib.Data.List.Forall2

/-!
# The tokens of a script tile it

The characters of a script are numbered from zero.  Each token but the last one stands in a *span*
of them, which spells it; the spans follow one another, and all that is left between them is white
space and comments.  The last token is the end of the script.  So the tokens tell every character of
the script apart from these, and each token's place is the place of its first character.

The scanner is followed by an invariant on what is still ahead: from the character it has come to,
the tokens it is going to read tile the rest of the script.  White space, a comment and a lexeme are
the three steps that preserve it.
-/

namespace LetScript

/-! ### Places -/

/-- The place of the character with a given number: newlines before it, and characters since the
last of them. -/
def placeAt (script : List Char) (i : Nat) : Location where
  line := 1 + ((script.take i).count '\n' : Nat)
  column := 1 + (((script.take i).reverse.takeWhile (· ≠ '\n')).length : Nat)

lemma placeAt_zero (script : List Char) : placeAt script 0 = Location.start := by
  simp [placeAt, Location.start]

lemma placeAt_succ {script : List Char} {i : Nat} {c : Char} (h : script[i]? = some c) :
    placeAt script (i + 1) = (placeAt script i).after c := by
  have htake : script.take (i + 1) = script.take i ++ [c] := by
    rw [List.take_add_one, h]
    rfl
  rw [placeAt, htake, Location.after]
  by_cases hc : c = '\n'
  · simp [placeAt, hc, Int.add_assoc]
  · simp [placeAt, hc, Int.add_assoc]

lemma drop_eq_cons {script rest : List Char} {k : Nat} {c : Char} (h : script.drop k = c :: rest) :
    script[k]? = some c ∧ script.drop (k + 1) = rest := by
  rw [← List.head?_drop, ← List.tail_drop, h]
  exact ⟨rfl, rfl⟩

lemma drop_eq_append {script cs rest : List Char} {k : Nat} (h : script.drop k = cs ++ rest) :
    script.drop (k + cs.length) = rest := by
  rw [← List.drop_drop, h, List.drop_left]

lemma le_of_drop_eq_append {script cs rest : List Char} {k : Nat} (h : script.drop k = cs ++ rest)
    (hk : k ≤ script.length) : k + cs.length ≤ script.length := by
  have hlen := congrArg List.length h
  simp only [List.length_drop, List.length_append] at hlen
  omega

/-- The place behind some characters, counted on from the place of the first one. -/
lemma placeAt_add {script cs rest : List Char} {k : Nat} (h : script.drop k = cs ++ rest) :
    placeAt script (k + cs.length) = (placeAt script k).afterAll cs := by
  induction cs generalizing k with
  | nil => rfl
  | cons c cs ih =>
    obtain ⟨hc, hdrop⟩ := drop_eq_cons h
    calc placeAt script (k + (cs.length + 1))
        = placeAt script (k + 1 + cs.length) := by rw [Nat.add_right_comm, Nat.add_assoc]
      _ = (placeAt script (k + 1)).afterAll cs := ih hdrop
      _ = (placeAt script k).afterAll (c :: cs) := by
          rw [placeAt_succ hc, Location.afterAll_cons]

/-- The first column is that of the first character of a line. -/
lemma placeAt_column {script : List Char} {i : Nat} (hi : i ≤ script.length)
    (h : (placeAt script i).column = 1) : i = 0 ∨ script[i - 1]? = some '\n' := by
  cases i with
  | zero => exact .inl rfl
  | succ i =>
    have hc : script[i]? = some script[i] := List.getElem?_eq_getElem hi
    right
    rw [placeAt_succ hc, Location.after] at h
    split at h
    · next hnewline => rw [Nat.add_sub_cancel, hc, hnewline]
    · simp only [placeAt] at h
      omega

/-! ### Lexemes -/

/-- The operator characters and the kinds of their tokens. -/
def signs : List (Char × TokenKind) :=
  [('+', .plus), ('-', .minus), ('*', .asterisk), ('/', .slash), (':', .colon), ('=', .equals)]

/-- The characters, with `next` behind them, spell a token of this kind and value.  A number or a
word goes as far as it can. -/
inductive Spells : List Char → (next : Option Char) → TokenKind → Text → Prop
  | integer {digits : List Char} {next : Option Char} (hne : digits ≠ [])
      (hdigits : ∀ c ∈ digits, isDigit c = true) (hnext : ∀ c ∈ next, isDigit c = false) :
      Spells digits next .integer (Text.ofChars digits)
  | string {body : List Char} {next : Option Char} (hbody : '"' ∉ body) :
      Spells ('"' :: body ++ ['"']) next .string (Text.ofChars body)
  | keyword {next : Option Char} (hnext : ∀ c ∈ next, isWordChar c = false) :
      Spells ['l', 'e', 't'] next .letKeyword "let"
  | identifier {word : List Char} {next : Option Char} (hne : word ≠ [])
      (hword : ∀ c ∈ word, isWordChar c = true) (hlet : word ≠ ['l', 'e', 't'])
      (hnext : ∀ c ∈ next, isWordChar c = false) :
      Spells word next .identifier (Text.ofChars word)
  | sign {c : Char} {next : Option Char} {kind : TokenKind} (hsign : (c, kind) ∈ signs) :
      Spells [c] next kind (Text.ofChars [c])

lemma Spells.ne_nil {cs : List Char} {next : Option Char} {kind : TokenKind} {value : Text}
    (h : Spells cs next kind value) : cs ≠ [] := by
  cases h with
  | integer hne _ _ => exact hne
  | identifier hne _ _ _ => exact hne
  | _ => simp

lemma Spells.kind_ne {cs : List Char} {next : Option Char} {kind : TokenKind} {value : Text}
    (h : Spells cs next kind value) : kind ≠ .endOfFile ∧ kind ≠ .error := by
  cases h with
  | sign hsign =>
    constructor
    · rintro rfl
      simp [signs] at hsign
    · rintro rfl
      simp [signs] at hsign
  | _ => decide

lemma mem_signs {c : Char} {kind : TokenKind} (h : operatorKind? c = some kind) :
    (c, kind) ∈ signs := by
  unfold operatorKind? at h
  split at h <;> simp_all [signs]

lemma head?_dropWhile (p : Char → Bool) {cs : List Char} {c : Char}
    (h : c ∈ (cs.dropWhile p).head?) : p c = false := by
  have hhead := List.head?_dropWhile_not p cs
  rw [Option.mem_def.1 h] at hhead
  simpa using hhead

/-- A lexeme without a fault is one that the characters spell. -/
structure Lexeme.Valid (x : Lexeme) (cs : List Char) : Prop where
  split : cs = x.spelling ++ x.rest
  spells : Spells x.spelling x.rest.head? x.kind x.value

lemma forall_mem_cons_takeWhile {p : Char → Bool} {c : Char} (hc : p c = true) (rest : List Char) :
    ∀ d ∈ c :: rest.takeWhile p, p d = true :=
  List.forall_mem_cons.2 ⟨hc, fun _ => List.mem_takeWhile_imp⟩

lemma spells_word {word : List Char} {next : Option Char} (hne : word ≠ [])
    (hword : ∀ c ∈ word, isWordChar c = true) (hnext : ∀ c ∈ next, isWordChar c = false) :
    Spells word next (wordKind word) (Text.ofChars word) := by
  rw [wordKind]
  split
  · next hlet =>
    subst hlet
    exact .keyword hnext
  · next hlet => exact .identifier hne hword hlet hnext

/-- A string ends at the next quote. -/
lemma eq_takeWhile_append_quote {rest rest' : List Char} {quote : Char}
    (h : rest.dropWhile (· ≠ '"') = quote :: rest') :
    quote = '"' ∧ rest = rest.takeWhile (· ≠ '"') ++ '"' :: rest' := by
  have hhead : quote ∈ (rest.dropWhile (· ≠ '"')).head? := by
    rw [h]
    rfl
  obtain rfl : quote = '"' := by simpa using head?_dropWhile _ hhead
  refine ⟨rfl, ?_⟩
  rw [← h, List.takeWhile_append_dropWhile]

/-- A lexeme has a fault, or it is one that the characters spell. -/
lemma lexeme_cases (c : Char) (rest : List Char) :
    (lexeme c rest).kind = .error ∨ (lexeme c rest).Valid (c :: rest) := by
  unfold lexeme
  split
  · next hdigit =>
    right
    refine ⟨by simp, .integer (by simp) (forall_mem_cons_takeWhile hdigit rest) ?_⟩
    exact fun d => head?_dropWhile isDigit
  · split
    · next hquote =>
      subst hquote
      cases hd : rest.dropWhile (· ≠ '"') with
      | nil => exact .inl rfl
      | cons quote rest' =>
        right
        obtain ⟨rfl, hsplit⟩ := eq_takeWhile_append_quote hd
        refine ⟨?_, .string fun hmem => by simpa using List.mem_takeWhile_imp hmem⟩
        nth_rewrite 1 [hsplit]
        simp
    · split
      · next hword =>
        right
        refine ⟨by simp, spells_word (by simp) (forall_mem_cons_takeWhile hword rest) ?_⟩
        exact fun d => head?_dropWhile isWordChar
      · cases hkind : operatorKind? c with
        | none => exact .inl rfl
        | some kind => exact .inr ⟨rfl, .sign (mem_signs hkind)⟩

/-! ### Tilings -/

/-- A stretch of characters, given by the number of its first one and the number behind its last
one. -/
structure Span where
  /-- The number of the first character. -/
  start : Nat
  /-- The number behind the last character. -/
  stop : Nat
deriving DecidableEq

/-- Whether a character belongs to a span. -/
def Span.Covers (s : Span) (i : Nat) : Prop := s.start ≤ i ∧ i < s.stop

/-- The characters of a span. -/
def Span.chars (s : Span) (script : List Char) : List Char :=
  (script.drop s.start).take (s.stop - s.start)

/-- A token stands in a span of a script: the characters there spell it, and its place is the place
of the first of them. -/
structure StandsIn (script : List Char) (t : Token) (s : Span) : Prop where
  start_lt : s.start < s.stop
  stop_le : s.stop ≤ script.length
  spells : Spells (s.chars script) script[s.stop]? t.kind t.value
  location : t.location = placeAt script s.start

/-- The characters with the numbers from `j` to `i` belong to a comment, which begins at `j` with
the first character of a line.  No part of it belongs to a token. -/
structure Comment (script : List Char) (spans : List Span) (j i : Nat) : Prop where
  start_le : j ≤ i
  hash : script[j]? = some '#'
  line : j = 0 ∨ script[j - 1]? = some '\n'
  oneLine : ∀ k, j ≤ k → k ≤ i → script[k]? ≠ some '\n'
  uncovered : ∀ k, j ≤ k → k ≤ i → ∀ s ∈ spans, ¬ s.Covers k

/-- From the character number `start` on, the tokens stand in the spans, one behind the other, and
whatever is not in a span is white space or belongs to a comment. -/
structure Tiles (script : List Char) (start : Nat) (tokens : List Token) (spans : List Span) :
    Prop where
  standsIn : List.Forall₂ (StandsIn script) tokens spans
  start_le : ∀ s ∈ spans, start ≤ s.start
  ordered : spans.Pairwise fun s s' => s.stop ≤ s'.start
  gaps : ∀ i c, start ≤ i → script[i]? = some c → (∀ s ∈ spans, ¬ s.Covers i) →
    isBlank c = true ∨ ∃ j, start ≤ j ∧ Comment script spans j i

namespace Tiles

variable {script : List Char} {k : Nat} {tokens : List Token} {spans : List Span}

lemma finish (script : List Char) : Tiles script script.length [] [] where
  standsIn := .nil
  start_le := by simp
  ordered := .nil
  gaps i c hi hc _ := by
    rw [List.getElem?_eq_none hi] at hc
    cases hc

/-- A character behind `k'` that is in no span is accounted for from any earlier `k` as well. -/
lemma gaps_of_le {k' : Nat} (h : Tiles script k' tokens spans) (hk : k ≤ k') {i : Nat} {c : Char}
    (hi : k' ≤ i) (hc : script[i]? = some c) (hspans : ∀ s ∈ spans, ¬ s.Covers i) :
    isBlank c = true ∨ ∃ j, k ≤ j ∧ Comment script spans j i := by
  refine (h.gaps i c hi hc hspans).imp_right ?_
  rintro ⟨j, hj, hcomment⟩
  exact ⟨j, Nat.le_trans hk hj, hcomment⟩

lemma blank (h : Tiles script (k + 1) tokens spans) {c : Char} (hc : script[k]? = some c)
    (hblank : isBlank c = true) : Tiles script k tokens spans where
  standsIn := h.standsIn
  start_le s hs := Nat.le_of_succ_le (h.start_le s hs)
  ordered := h.ordered
  gaps i d hi hd hspans := by
    rcases Nat.eq_or_lt_of_le hi with rfl | hlt
    · rw [hc] at hd
      cases hd
      exact .inl hblank
    · exact h.gaps_of_le (Nat.le_succ k) hlt hd hspans

lemma comment {body rest : List Char} (h : Tiles script (k + ('#' :: body).length) tokens spans)
    (hdrop : script.drop k = '#' :: body ++ rest) (hbody : '\n' ∉ body) (hk : k ≤ script.length)
    (hcolumn : (placeAt script k).column = 1) : Tiles script k tokens spans where
  standsIn := h.standsIn
  start_le s hs := Nat.le_trans (Nat.le_add_right k _) (h.start_le s hs)
  ordered := h.ordered
  gaps i c hi hc hspans := by
    by_cases hlt : i < k + ('#' :: body).length
    · refine .inr ⟨k, Nat.le_refl k, hi, (drop_eq_cons hdrop).1, placeAt_column hk hcolumn, ?_, ?_⟩
      · intro m hkm hmi hnewline
        have hinside : ('#' :: body ++ rest)[m - k]? = ('#' :: body)[m - k]? :=
          List.getElem?_append_left (by omega)
        rw [← hdrop, List.getElem?_drop, Nat.add_sub_cancel' hkm, hnewline] at hinside
        simpa [hbody] using List.mem_of_getElem? hinside.symm
      · intro m hkm hmi s hs hcovers
        have hstart := h.start_le s hs
        have := hcovers.1
        omega
    · exact h.gaps_of_le (Nat.le_add_right k _) (Nat.le_of_not_lt hlt) hc hspans

lemma token {t : Token} {stop : Nat} (h : Tiles script stop tokens spans)
    (ht : StandsIn script t ⟨k, stop⟩) : Tiles script k (t :: tokens) (⟨k, stop⟩ :: spans) where
  standsIn := .cons ht h.standsIn
  start_le := by
    refine List.forall_mem_cons.2 ⟨Nat.le_refl k, fun s hs => ?_⟩
    exact Nat.le_trans (Nat.le_of_lt ht.start_lt) (h.start_le s hs)
  ordered := .cons h.start_le h.ordered
  gaps i c hi hc hspans := by
    obtain ⟨hfirst, hothers⟩ := List.forall_mem_cons.1 hspans
    have hstop : stop ≤ i := Nat.le_of_not_lt fun hlt => hfirst ⟨hi, hlt⟩
    refine (h.gaps i c hstop hc hothers).imp_right ?_
    rintro ⟨j, hj, hcomment⟩
    refine ⟨j, Nat.le_trans (Nat.le_of_lt ht.start_lt) hj, hcomment.start_le, hcomment.hash,
      hcomment.line, hcomment.oneLine, fun m hjm hmi => ?_⟩
    refine List.forall_mem_cons.2 ⟨fun hcovers => ?_, hcomment.uncovered m hjm hmi⟩
    -- the comment begins behind the span of the token
    exact absurd hcovers.2 (Nat.not_lt.2 (Nat.le_trans hj hjm))

end Tiles

/-- A lexeme at a character makes a token that stands in the span of its spelling. -/
lemma Lexeme.Valid.standsIn {x : Lexeme} {cs script : List Char} (h : x.Valid cs) {k : Nat}
    (hdrop : script.drop k = cs) (hk : k ≤ script.length) :
    StandsIn script ⟨x.kind, x.value, placeAt script k⟩ ⟨k, k + x.spelling.length⟩ := by
  have hsplit : script.drop k = x.spelling ++ x.rest := hdrop.trans h.split
  have hrest : script.drop (k + x.spelling.length) = x.rest := drop_eq_append hsplit
  refine ⟨?_, ?_, ?_, rfl⟩
  · exact Nat.lt_add_of_pos_right (List.length_pos_iff.2 h.spells.ne_nil)
  · exact le_of_drop_eq_append hsplit hk
  · have hchars : Span.chars ⟨k, k + x.spelling.length⟩ script = x.spelling := by
      rw [Span.chars, hsplit, Nat.add_sub_cancel_left, List.take_left]
    rw [hchars, ← List.head?_drop, hrest]
    exact h.spells

/-! ### The steps of the scanner -/

/-- The steps of the scanner from one character up to another one, the number `o`: white space,
comments up to the end of their line, and lexemes.  The number behind the last character stands for
the end of the script. -/
inductive Reads (script : List Char) (o : Nat) : Nat → List Token → List Span → Prop
  | here : Reads script o o [] []
  | blank {k : Nat} {c : Char} {tokens : List Token} {spans : List Span}
      (hc : script[k]? = some c) (hblank : isBlank c = true)
      (hreads : Reads script o (k + 1) tokens spans) : Reads script o k tokens spans
  | comment {k : Nat} {body rest : List Char} {tokens : List Token} {spans : List Span}
      (hdrop : script.drop k = '#' :: body ++ rest) (hbody : '\n' ∉ body)
      (hrest : ∀ c ∈ rest.head?, c = '\n') (hcolumn : (placeAt script k).column = 1)
      (hreads : Reads script o (k + ('#' :: body).length) tokens spans) :
      Reads script o k tokens spans
  | token {k stop : Nat} {t : Token} {tokens : List Token} {spans : List Span}
      (ht : StandsIn script t ⟨k, stop⟩) (hreads : Reads script o stop tokens spans) :
      Reads script o k (t :: tokens) (⟨k, stop⟩ :: spans)

/-- What is read up to the end tiles what is ahead. -/
lemma Reads.tiles {script : List Char} {k : Nat} {tokens : List Token} {spans : List Span}
    (h : Reads script script.length k tokens spans) : Tiles script k tokens spans := by
  induction h with
  | here => exact Tiles.finish script
  | blank hc hblank _ ih => exact ih.blank hc hblank
  | @comment k body rest _ _ hdrop hbody _ hcolumn _ ih =>
    have hk : k < script.length := (List.getElem?_eq_some_iff.1 (drop_eq_cons hdrop).1).1
    exact ih.comment hdrop hbody (Nat.le_of_lt hk) hcolumn
  | token ht _ ih => exact ih.token ht

/-- A scan without a fault takes such steps, and ends with the end of the script. -/
lemma scan_reads {script cs : List Char} {k : Nat} {l : Location} (hdrop : script.drop k = cs)
    (hk : k ≤ script.length) (hl : l = placeAt script k) (h : (scan l cs).error = none) :
    ∃ lexemes spans, (scan l cs).tokens = lexemes ++ [Token.endAt (placeAt script script.length)] ∧
      Reads script script.length k lexemes spans := by
  fun_induction scan l cs generalizing k with
  | case1 l =>
    obtain rfl : k = script.length := Nat.le_antisymm hk (List.drop_eq_nil_iff.1 hdrop)
    exact ⟨[], [], by rw [hl]; rfl, .here⟩
  | case2 l c rest hcomment ih =>
    obtain ⟨rfl, hcolumn⟩ := hcomment
    subst hl
    have hsplit : script.drop k
        = '#' :: rest.takeWhile (· ≠ '\n') ++ rest.dropWhile (· ≠ '\n') := by
      rw [hdrop, List.cons_append, List.takeWhile_append_dropWhile]
    obtain ⟨lexemes, spans, htokens, hreads⟩ :=
      ih (drop_eq_append hsplit) (le_of_drop_eq_append hsplit hk) (placeAt_add hsplit).symm h
    refine ⟨lexemes, spans, htokens, .comment hsplit ?_ ?_ hcolumn hreads⟩
    · exact fun hmem => by simpa using List.mem_takeWhile_imp hmem
    · exact fun c hc => by simpa using head?_dropWhile _ hc
  | case3 l c rest hcomment hblank ih =>
    subst hl
    obtain ⟨hc, hrest⟩ := drop_eq_cons hdrop
    obtain ⟨lexemes, spans, htokens, hreads⟩ :=
      ih hrest (List.getElem?_eq_some_iff.1 hc).1 (placeAt_succ hc).symm h
    exact ⟨lexemes, spans, htokens, .blank hc hblank hreads⟩
  | case4 => cases h
  | case5 l c rest _ _ x t herror s =>
    rename_i ih
    subst hl
    have hvalid : x.Valid (c :: rest) := (lexeme_cases c rest).resolve_left herror
    have hsplit : script.drop k = x.spelling ++ x.rest := hdrop.trans hvalid.split
    have hstands := hvalid.standsIn hdrop hk
    obtain ⟨lexemes, spans, htokens, hreads⟩ :=
      ih (drop_eq_append hsplit) hstands.stop_le (placeAt_add hsplit).symm h
    exact ⟨_ :: lexemes, _ :: spans, congrArg _ htokens, .token hstands hreads⟩

/-- **What the scanner reads tiles what is ahead of it.** -/
theorem scan_tiles {script cs : List Char} {k : Nat} {l : Location} (hdrop : script.drop k = cs)
    (hk : k ≤ script.length) (hl : l = placeAt script k) (h : (scan l cs).error = none) :
    ∃ lexemes spans, (scan l cs).tokens = lexemes ++ [Token.endAt (placeAt script script.length)] ∧
      Tiles script k lexemes spans := by
  obtain ⟨lexemes, spans, htokens, hreads⟩ := scan_reads hdrop hk hl h
  exact ⟨lexemes, spans, htokens, hreads.tiles⟩

/-- A token in a span is neither the end of the script nor a fault. -/
lemma Tiles.kind_ne {script : List Char} {k : Nat} {tokens : List Token} {spans : List Span}
    (h : Tiles script k tokens spans) : ∀ t ∈ tokens, t.kind ≠ .endOfFile ∧ t.kind ≠ .error := by
  obtain ⟨hstands, -, -, -⟩ := h
  induction hstands with
  | nil => simp
  | cons ht _ ih => exact List.forall_mem_cons.2 ⟨ht.spells.kind_ne, ih⟩

/-- Every span is that of a token. -/
lemma Tiles.exists_token {script : List Char} {k : Nat} {tokens : List Token} {spans : List Span}
    (h : Tiles script k tokens spans) {s : Span} (hs : s ∈ spans) :
    ∃ t, (t, s) ∈ tokens.zip spans ∧ StandsIn script t s := by
  obtain ⟨hstands, -, -, -⟩ := h
  induction hstands with
  | nil => cases hs
  | @cons t s' tokens spans ht _ ih =>
    rcases List.mem_cons.1 hs with rfl | hs
    · exact ⟨t, List.mem_cons_self, ht⟩
    · obtain ⟨t', hzip, ht'⟩ := ih hs
      exact ⟨t', List.mem_cons_of_mem _ hzip, ht'⟩

/-- **The tokens of a script tile it.**  If the first run of the lexer succeeds, then its last token
is the end of the script, placed behind the last character.  The others, among which are no end and
no fault, stand in spans of characters that spell them and follow one another; between the spans,
there is only white space and comments. -/
theorem run_tiles {script : Text} {tokens : List Token}
    (h : (Lexer.ofText script).run.1 = .ok tokens) :
    ∃ lexemes spans,
      tokens = lexemes ++ [Token.endAt (placeAt script.chars script.chars.length)] ∧
      (∀ t ∈ lexemes, t.kind ≠ .endOfFile ∧ t.kind ≠ .error) ∧
      Tiles script.chars 0 lexemes spans := by
  obtain ⟨herror, rfl⟩ := tokenize_eq_ok_iff.1 h
  obtain ⟨lexemes, spans, htokens, htiles⟩ :=
    scan_tiles List.drop_zero (Nat.zero_le _) (placeAt_zero _).symm herror
  exact ⟨lexemes, spans, htokens, htiles.kind_ne, htiles⟩

/-- The tokens of a script that can be read, with the steps that read them. -/
lemma tokenize_reads {script : Text} {tokens : List Token} (h : tokenize script = .ok tokens) :
    ∃ lexemes spans,
      tokens = lexemes ++ [Token.endAt (placeAt script.chars script.chars.length)] ∧
      Reads script.chars script.chars.length 0 lexemes spans := by
  obtain ⟨herror, rfl⟩ := tokenize_eq_ok_iff.1 h
  exact scan_reads List.drop_zero (Nat.zero_le _) (placeAt_zero _).symm herror

/-- Every token of a script but the end stands in a span of it. -/
lemma exists_standsIn {script : Text} {tokens : List Token} (h : tokenize script = .ok tokens)
    {t : Token} (ht : t ∈ tokens) (hkind : t.kind ≠ .endOfFile) :
    ∃ span, StandsIn script.chars t span := by
  obtain ⟨lexemes, spans, rfl, hreads⟩ := tokenize_reads h
  have hlexeme : t ∈ lexemes := by
    rcases List.mem_append.1 ht with hlexeme | hend
    · exact hlexeme
    · exact absurd (congrArg Token.kind (List.mem_singleton.1 hend)) hkind
  obtain ⟨i, hi, rfl⟩ := List.mem_iff_getElem.1 hlexeme
  exact ⟨_, (List.forall₂_iff_get.1 hreads.tiles.standsIn).2 i hi
    (hreads.tiles.standsIn.length_eq ▸ hi)⟩

/-- A comment line, and a string over two lines with a `#` that begins the second one. -/
def commentedScript : Text := "# one\nlet s = \"a\n# two\" + 12"

/-- The tokens of the commented script that stand in spans. -/
def commentedTokens : List Token :=
  [⟨.letKeyword, "let", ⟨2, 1⟩⟩, ⟨.identifier, "s", ⟨2, 5⟩⟩, ⟨.equals, "=", ⟨2, 7⟩⟩,
    ⟨.string, "a\n# two", ⟨2, 9⟩⟩, ⟨.plus, "+", ⟨3, 8⟩⟩, ⟨.integer, "12", ⟨3, 10⟩⟩]

/-- The second `#` belongs to the string. -/
theorem run_tiles_commented :
    (Lexer.ofText commentedScript).run.1 = .ok (commentedTokens ++ [Token.endAt ⟨3, 12⟩]) ∧
      ∃ spans, Tiles commentedScript.chars 0 commentedTokens spans := by
  have h : (Lexer.ofText commentedScript).run.1
      = .ok (commentedTokens ++ [Token.endAt ⟨3, 12⟩]) := by
    have hok : (Lexer.ofText commentedScript).run.1.toOption
        = some (commentedTokens ++ [Token.endAt ⟨3, 12⟩]) := by decide +kernel
    revert hok
    cases (Lexer.ofText commentedScript).run.1 <;> simp [Except.toOption]
  obtain ⟨lexemes, spans, htokens, -, htiles⟩ := run_tiles h
  obtain rfl : commentedTokens = lexemes := (List.append_inj' htokens rfl).1
  exact ⟨h, spans, htiles⟩

end LetScript
