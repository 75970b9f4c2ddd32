import LetScript.Proofs.Token.Places
import LetScript.Proofs.Token.Spelling

/-!
# Where reading goes wrong

A script that cannot be read has a first fault: a string that is not closed, or a character that
begins nothing.  Everything before it can be read on its own, and it lies in no token and in no
comment.

That the text before the fault can be read needs that the scanner does not look further than it
goes.  It looks at one character behind a number or a word, and for the end of a line behind a
comment.  So the steps it takes up to a character (`Reads`) are steps in the text before that
character as well (`Reads.take`).  Conversely, steps in the text before a fault are steps in the
script (`Reads.of_take`), unless they end inside a comment.
-/

namespace LetScript

/-! ### Faults -/

/-- At the character number `o` begins a string that is not closed, or stands a character that
begins nothing: neither white space, a number, a word, a string, a sign nor a comment. -/
inductive LexFault (script : List Char) (o : Nat) : (message : Text) → Prop
  | unclosed (hquote : script[o]? = some '"') (hrest : '"' ∉ script.drop (o + 1)) :
      LexFault script o ("unclosed string: " ++ Text.ofChars (script.drop (o + 1)))
  | symbol {c : Char} (hc : script[o]? = some c) (hblank : isBlank c = false)
      (hdigit : isDigit c = false) (hletter : isLetter c = false)
      (hmark : c ∉ ['_', '"', '+', '-', '*', '/', ':', '='])
      (hhash : c = '#' → ¬ (o = 0 ∨ script[o - 1]? = some '\n')) :
      LexFault script o ("invalid symbol '" ++ Text.ofChars [c] ++ "'")

lemma drop_of_getElem? {script : List Char} {i : Nat} {c : Char} (h : script[i]? = some c) :
    script.drop i = c :: script.drop (i + 1) := by
  obtain ⟨hi, rfl⟩ := List.getElem?_eq_some_iff.1 h
  exact List.drop_eq_getElem_cons hi

/-- The first character of a line is in the first column. -/
lemma placeAt_column_of_line {script : List Char} {i : Nat}
    (h : i = 0 ∨ script[i - 1]? = some '\n') : (placeAt script i).column = 1 := by
  cases i with
  | zero => simp [placeAt]
  | succ i =>
    have hnewline : script[i]? = some '\n' := h.resolve_left (Nat.succ_ne_zero i)
    rw [placeAt_succ hnewline]
    rfl

section LexFault

variable {script rest : List Char} {o : Nat} {c : Char} {message : Text}

lemma LexFault.getElem? (h : LexFault script o message) : ∃ c, script[o]? = some c ∧
    isBlank c = false ∧ isDigit c = false ∧ isWordChar c = false ∧
    ¬ (c = '#' ∧ (o = 0 ∨ script[o - 1]? = some '\n')) := by
  cases h with
  | unclosed hquote _ => exact ⟨'"', hquote, by decide, by decide, by decide, by simp⟩
  | @symbol c hc hblank hdigit hletter hmark hhash =>
    refine ⟨c, hc, hblank, hdigit, ?_, fun h => hhash h.1 h.2⟩
    have hunderscore : c ≠ '_' := fun heq => hmark (by simp [heq])
    simp [isWordChar, hletter, hunderscore]

/-- A lexeme with a fault. -/
lemma fault_of_lexeme (hdrop : script.drop o = c :: rest)
    (hcomment : ¬ (c = '#' ∧ (placeAt script o).column = 1)) (hblank : ¬ isBlank c = true)
    (herror : (lexeme c rest).kind = .error) : LexFault script o (lexeme c rest).value := by
  obtain ⟨hc, rfl⟩ := drop_eq_cons hdrop
  unfold lexeme at herror ⊢
  split_ifs at herror ⊢ with hdigit hquote hword
  · subst hquote
    cases hclose : (script.drop (o + 1)).dropWhile (· ≠ '"') with
    | nil =>
      have hopen : ∀ d ∈ script.drop (o + 1), decide (d ≠ '"') = true :=
        List.dropWhile_eq_nil_iff.1 hclose
      have hbody : (script.drop (o + 1)).takeWhile (· ≠ '"') = script.drop (o + 1) :=
        List.takeWhile_eq_self_iff.2 hopen
      simp only [hbody]
      exact .unclosed hc fun hmem => by simpa using hopen _ hmem
    | cons quote rest' =>
      simp only [hclose] at herror
      cases herror
  · simp only [wordKind] at herror
    split at herror <;> cases herror
  · cases hkind : operatorKind? c with
    | none =>
      have hletter : isLetter c = false := by
        simp only [isWordChar, Bool.or_eq_true, not_or, Bool.not_eq_true] at hword
        exact hword.1
      refine .symbol hc (by simpa using hblank) (by simpa using hdigit) hletter ?_ ?_
      · intro hmark
        simp only [List.mem_cons, List.not_mem_nil, or_false] at hmark
        rcases hmark with rfl | rfl | rfl | rfl | rfl | rfl | rfl | rfl
        · exact hword (by decide)
        · exact hquote rfl
        all_goals cases hkind
      · exact fun hhash hline => hcomment ⟨hhash, placeAt_column_of_line hline⟩
    | some kind =>
      have hsign := mem_signs hkind
      simp only [hkind] at herror
      rw [herror] at hsign
      simp [signs] at hsign

lemma lexeme_unclosed (h : '"' ∉ rest) :
    lexeme '"' rest = ⟨.error, "unclosed string: " ++ Text.ofChars rest, '"' :: rest, []⟩ := by
  have hopen : ∀ d ∈ rest, decide (d ≠ '"') = true := by
    intro d hd
    exact decide_eq_true fun hquote => h (hquote ▸ hd)
  rw [lexeme, if_neg (by decide), if_pos rfl, List.takeWhile_eq_self_iff.2 hopen,
    List.dropWhile_eq_nil_iff.2 hopen]

lemma lexeme_symbol (hdigit : isDigit c = false) (hletter : isLetter c = false)
    (hmark : c ∉ ['_', '"', '+', '-', '*', '/', ':', '=']) :
    lexeme c rest = ⟨.error, "invalid symbol '" ++ Text.ofChars [c] ++ "'", [c], rest⟩ := by
  simp only [List.mem_cons, List.not_mem_nil, or_false, not_or] at hmark
  have hword : isWordChar c = false := by simp [isWordChar, hletter, hmark.1]
  have hkind : operatorKind? c = none := by
    unfold operatorKind?
    split <;> simp_all
  rw [lexeme, if_neg (by simp [hdigit]), if_neg hmark.2.1, if_neg (by simp [hword]), hkind]

/-- The scanner stops at a fault. -/
lemma LexFault.scan_eq (h : LexFault script o message) :
    (scan (placeAt script o) (script.drop o)).error = some ⟨placeAt script o, message⟩ ∧
      (scan (placeAt script o) (script.drop o)).tokens
        = [⟨.error, message, placeAt script o⟩] := by
  obtain ⟨c, hc, hblank, -, -, hhash⟩ := h.getElem?
  have hcomment : ¬ (c = '#' ∧ (placeAt script o).column = 1) := by
    rintro ⟨hchar, hcolumn⟩
    have ho : o ≤ script.length := Nat.le_of_lt (List.getElem?_eq_some_iff.1 hc).1
    exact hhash ⟨hchar, placeAt_column ho hcolumn⟩
  have hlexeme : (lexeme c (script.drop (o + 1))).kind = .error ∧
      (lexeme c (script.drop (o + 1))).value = message := by
    cases h with
    | unclosed hquote hrest =>
      obtain rfl : '"' = c := Option.some.inj (hquote.symm.trans hc)
      rw [lexeme_unclosed hrest]
      exact ⟨rfl, rfl⟩
    | @symbol d hd _ hdigit hletter hmark _ =>
      obtain rfl : d = c := Option.some.inj (hd.symm.trans hc)
      rw [lexeme_symbol hdigit hletter hmark]
      exact ⟨rfl, rfl⟩
  obtain ⟨hkind, hvalue⟩ := hlexeme
  rw [drop_of_getElem? hc, scan_fault hcomment (by simp [hblank]) hkind, hkind, hvalue]
  exact ⟨rfl, rfl⟩

end LexFault

/-! ### Reading up to a character -/

/-- A scan that fails has come to a fault. -/
lemma exists_fault_of_scan {script cs : List Char} {k : Nat} {l : Location} {e : LexError}
    (hdrop : script.drop k = cs) (hk : k ≤ script.length) (hl : l = placeAt script k)
    (h : (scan l cs).error = some e) :
    ∃ o tokens spans, Reads script o k tokens spans ∧ e.location = placeAt script o ∧
      LexFault script o e.message := by
  fun_induction scan l cs generalizing k with
  | case1 => cases h
  | case2 l c rest hcomment ih =>
    obtain ⟨rfl, hcolumn⟩ := hcomment
    subst hl
    have hsplit : script.drop k
        = '#' :: rest.takeWhile (· ≠ '\n') ++ rest.dropWhile (· ≠ '\n') := by
      rw [hdrop, List.cons_append, List.takeWhile_append_dropWhile]
    obtain ⟨o, tokens, spans, hreads, hfault⟩ :=
      ih (drop_eq_append hsplit) (le_of_drop_eq_append hsplit hk) (placeAt_add hsplit).symm h
    refine ⟨o, tokens, spans, .comment hsplit ?_ ?_ hcolumn hreads, hfault⟩
    · exact fun hmem => by simpa using List.mem_takeWhile_imp hmem
    · exact fun c hc => by simpa using head?_dropWhile _ hc
  | case3 l c rest hcomment hblank ih =>
    subst hl
    obtain ⟨hc, hrest⟩ := drop_eq_cons hdrop
    obtain ⟨o, tokens, spans, hreads, hfault⟩ :=
      ih hrest (List.getElem?_eq_some_iff.1 hc).1 (placeAt_succ hc).symm h
    exact ⟨o, tokens, spans, .blank hc hblank hreads, hfault⟩
  | case4 l c rest hcomment hblank x t =>
    rename_i herror
    subst hl
    obtain rfl := Option.some.inj h
    exact ⟨k, [], [], .here, rfl, fault_of_lexeme hdrop hcomment hblank herror⟩
  | case5 l c rest _ _ x t herror s =>
    rename_i ih
    subst hl
    have hvalid : x.Valid (c :: rest) := (lexeme_cases c rest).resolve_left herror
    have hsplit : script.drop k = x.spelling ++ x.rest := hdrop.trans hvalid.split
    have hstands := hvalid.standsIn hdrop hk
    obtain ⟨o, tokens, spans, hreads, hfault⟩ :=
      ih (drop_eq_append hsplit) hstands.stop_le (placeAt_add hsplit).symm h
    exact ⟨o, _ :: tokens, _ :: spans, .token hstands hreads, hfault⟩

lemma StandsIn.drop_eq {script : List Char} {t : Token} {s : Span} (h : StandsIn script t s) :
    script.drop s.start = s.chars script ++ script.drop s.stop := by
  have hstart := h.start_lt
  have hstop : script.drop s.stop = (script.drop s.start).drop (s.stop - s.start) := by
    rw [List.drop_drop]
    congr 1
    omega
  rw [hstop, Span.chars, List.take_append_drop]

namespace Reads

variable {script : List Char} {o k : Nat} {tokens : List Token} {spans : List Span}

lemma le (h : Reads script o k tokens spans) : k ≤ o := by
  induction h with
  | here => exact Nat.le_refl o
  | blank _ _ _ ih => omega
  | comment _ _ _ _ _ ih => omega
  | token ht _ ih => exact Nat.le_trans (Nat.le_of_lt ht.start_lt) ih

/-- The scanner takes the steps, and then goes on. -/
lemma scan_eq (h : Reads script o k tokens spans) :
    (scan (placeAt script k) (script.drop k)).error
        = (scan (placeAt script o) (script.drop o)).error ∧
      (scan (placeAt script k) (script.drop k)).tokens
        = tokens ++ (scan (placeAt script o) (script.drop o)).tokens := by
  induction h with
  | here => exact ⟨rfl, rfl⟩
  | @blank k c tokens spans hc hblank _ ih =>
    have hhash : ¬ (c = '#' ∧ (placeAt script k).column = 1) := by
      rintro ⟨rfl, -⟩
      cases hblank
    rw [drop_of_getElem? hc, scan_blank hhash hblank, ← placeAt_succ hc]
    exact ih
  | @comment k body rest tokens spans hdrop hbody hrest hcolumn _ ih =>
    have hinside : ∀ c ∈ body, decide (c ≠ '\n') = true := by
      intro c hc
      exact decide_eq_true fun hnewline => hbody (hnewline ▸ hc)
    have hstop : ∀ c ∈ rest.head?, decide (c ≠ '\n') = false := by
      intro c hc
      simp [hrest c hc]
    obtain ⟨htake, hdropped⟩ := takeWhile_append_of_head hinside hstop
    rw [placeAt_add hdrop, drop_eq_append hdrop] at ih
    rw [hdrop, List.cons_append, scan_comment ⟨rfl, hcolumn⟩, htake, hdropped]
    exact ih
  | @token k stop t tokens spans ht _ ih =>
    have hspells :
        Spells (Span.chars ⟨k, stop⟩ script) (script.drop stop).head? t.kind t.value := by
      rw [List.head?_drop]
      exact ht.spells
    have hplace : placeAt script stop
        = (placeAt script k).afterAll (Span.chars ⟨k, stop⟩ script) := by
      rw [← placeAt_add ht.drop_eq]
      congr 1
      have hstart := ht.start_lt
      have hstop := ht.stop_le
      simp only [Span.chars, List.length_take, List.length_drop] at hstart hstop ⊢
      omega
    have htoken : (⟨t.kind, t.value, placeAt script k⟩ : Token) = t := by
      rw [← ht.location]
    rw [ht.drop_eq, scan_spells hspells, ← hplace, htoken]
    exact ⟨ih.1, congrArg _ ih.2⟩

/-- The tokens that are read stand in their spans, before the character that is come to. -/
lemma standsIn (h : Reads script o k tokens spans) :
    List.Forall₂ (StandsIn script) tokens spans ∧ ∀ s ∈ spans, s.stop ≤ o := by
  induction h with
  | here => exact ⟨.nil, by simp⟩
  | blank _ _ _ ih => exact ih
  | comment _ _ _ _ _ ih => exact ih
  | token ht hreads ih => exact ⟨.cons ht ih.1, List.forall_mem_cons.2 ⟨hreads.le, ih.2⟩⟩

/-- The scanner does not come to a character inside a comment: it goes on to the end of the line. -/
lemma not_comment (h : Reads script o k tokens spans) (ho : o < script.length)
    (hhash : ¬ (script[o]? = some '#' ∧ (o = 0 ∨ script[o - 1]? = some '\n'))) {j : Nat}
    (hkj : k ≤ j) : ¬ Comment script spans j o := by
  intro hcomment
  induction h with
  | here =>
    obtain rfl : o = j := Nat.le_antisymm hkj hcomment.start_le
    exact hhash ⟨hcomment.hash, hcomment.line⟩
  | @blank k c _ _ hc hblank _ ih =>
    have hne : k ≠ j := by
      rintro rfl
      obtain rfl : c = '#' := Option.some.inj (hc.symm.trans hcomment.hash)
      cases hblank
    exact ih (by omega) hcomment
  | @comment k body rest _ _ hdrop _ hrest _ hreads ih =>
    by_cases hj : k + ('#' :: body).length ≤ j
    · exact ih hj hcomment
    · have hle := hreads.le
      have hnewline : script[k + ('#' :: body).length]? = some '\n' := by
        have hhead : script[k + ('#' :: body).length]? = rest.head? := by
          rw [← List.head?_drop, drop_eq_append hdrop]
        rw [hhead]
        cases rest with
        | nil =>
          rw [List.getElem?_eq_getElem (Nat.lt_of_le_of_lt hle ho)] at hhead
          cases hhead
        | cons c rest => rw [List.head?_cons, hrest c rfl]
      exact hcomment.oneLine _ (by omega) hle hnewline
  | @token k stop t _ _ ht _ ih =>
    obtain ⟨hfirst, -⟩ :=
      List.forall_mem_cons.1 (hcomment.uncovered j (Nat.le_refl j) hcomment.start_le)
    have hstop : stop ≤ j := Nat.le_of_not_lt fun hlt => hfirst ⟨hkj, hlt⟩
    refine ih hstop { hcomment with uncovered := fun m hjm hmo s hs => ?_ }
    exact hcomment.uncovered m hjm hmo s (List.mem_cons_of_mem _ hs)

end Reads

/-! ### The text before a character -/

section Before

variable {script cs : List Char} {o k : Nat} {t : Token} {s : Span} {tokens : List Token}
  {spans : List Span} {next : Option Char} {kind : TokenKind} {value : Text}

lemma placeAt_take {i : Nat} (h : i ≤ o) : placeAt (script.take o) i = placeAt script i := by
  rw [placeAt, placeAt, List.take_take, Nat.min_eq_left h]

lemma Span.chars_take (h : s.stop ≤ o) : s.chars (script.take o) = s.chars script := by
  rw [Span.chars, Span.chars, List.drop_take, List.take_take, Nat.min_eq_left (by omega)]

/-- What is spelled is spelled also at the end of a script. -/
lemma Spells.last (h : Spells cs next kind value) : Spells cs none kind value := by
  cases h with
  | integer hne hdigits _ => exact .integer hne hdigits (by simp)
  | string hbody => exact .string hbody
  | keyword _ => exact .keyword (by simp)
  | identifier hne hword hlet _ => exact .identifier hne hword hlet (by simp)
  | sign hsign => exact .sign hsign

/-- What is spelled at the end of a script is spelled also before a character that goes on neither a
number nor a word. -/
lemma Spells.of_last (h : Spells cs none kind value)
    (hnext : ∀ c ∈ next, isDigit c = false ∧ isWordChar c = false) : Spells cs next kind value := by
  cases h with
  | integer hne hdigits _ => exact .integer hne hdigits fun c hc => (hnext c hc).1
  | string hbody => exact .string hbody
  | keyword _ => exact .keyword fun c hc => (hnext c hc).2
  | identifier hne hword hlet _ => exact .identifier hne hword hlet fun c hc => (hnext c hc).2
  | sign hsign => exact .sign hsign

lemma StandsIn.take (h : StandsIn script t s) (hs : s.stop ≤ o) (ho : o ≤ script.length) :
    StandsIn (script.take o) t s where
  start_lt := h.start_lt
  stop_le := by
    rw [List.length_take]
    omega
  spells := by
    rw [Span.chars_take hs, List.getElem?_take]
    split
    · exact h.spells
    · exact h.spells.last
  location := by
    rw [h.location, placeAt_take (Nat.le_trans (Nat.le_of_lt h.start_lt) hs)]

lemma StandsIn.of_take (h : StandsIn (script.take o) t s)
    (hnext : ∀ c ∈ script[o]?, isDigit c = false ∧ isWordChar c = false) : StandsIn script t s := by
  have hstop := h.stop_le
  rw [List.length_take] at hstop
  have hs : s.stop ≤ o := by omega
  have hspells := h.spells
  rw [Span.chars_take hs, List.getElem?_take] at hspells
  refine ⟨h.start_lt, by omega, ?_, ?_⟩
  · split at hspells
    · exact hspells
    · obtain rfl : o = s.stop := by omega
      exact hspells.of_last hnext
  · rw [h.location, placeAt_take (Nat.le_trans (Nat.le_of_lt h.start_lt) hs)]

/-- **The scanner does not look further than it goes.**  The steps that it takes up to a character,
it takes also if the script ends there. -/
theorem Reads.take (h : Reads script o k tokens spans) (ho : o ≤ script.length) :
    Reads (script.take o) o k tokens spans := by
  induction h with
  | here => exact .here
  | @blank k c _ _ hc hblank hreads ih =>
    refine .blank ?_ hblank ih
    rw [List.getElem?_take, if_pos (Nat.lt_of_succ_le hreads.le), hc]
  | @comment k body rest _ _ hdrop hbody hrest hcolumn hreads ih =>
    have hle := hreads.le
    have hdrop' : (script.take o).drop k
        = '#' :: body ++ rest.take (o - k - ('#' :: body).length) := by
      rw [List.drop_take, hdrop, List.take_append, List.take_of_length_le (by omega)]
    refine .comment hdrop' hbody ?_ ?_ ih
    · intro c hc
      rw [List.head?_take] at hc
      split at hc
      · cases hc
      · exact hrest c hc
    · rw [placeAt_take (by omega)]
      exact hcolumn
  | token ht hreads ih => exact .token (ht.take hreads.le ho) ih

/-- A comment goes on up to the character behind it, unless that is a newline. -/
lemma comment_of_drop {body rest : List Char} (hdrop : script.drop k = '#' :: body ++ rest)
    (hbody : '\n' ∉ body) (hcolumn : (placeAt script k).column = 1)
    (hnewline : script[k + ('#' :: body).length]? ≠ some '\n')
    (hspans : ∀ s ∈ spans, k + ('#' :: body).length < s.start) :
    Comment script spans k (k + ('#' :: body).length) := by
  obtain ⟨hhash, -⟩ := drop_eq_cons hdrop
  have hk : k < script.length := (List.getElem?_eq_some_iff.1 hhash).1
  refine ⟨Nat.le_add_right k _, hhash, placeAt_column (Nat.le_of_lt hk) hcolumn, ?_, ?_⟩
  · intro m hkm hm
    rcases Nat.eq_or_lt_of_le hm with rfl | hlt
    · exact hnewline
    · have hinside : ('#' :: body ++ rest)[m - k]? = ('#' :: body)[m - k]? :=
        List.getElem?_append_left (by omega)
      rw [← hdrop, List.getElem?_drop, Nat.add_sub_cancel' hkm] at hinside
      rw [hinside]
      exact fun hmem => by simpa [hbody] using List.mem_of_getElem? hmem
  · intro m _ hm s hs hcovers
    have hstart := hspans s hs
    have hle := hcovers.1
    omega

/-- Conversely, steps in the text before a character are steps in the script, if the character lies
in no comment and goes on neither a number nor a word. -/
lemma Reads.of_take (h : Reads (script.take o) o k tokens spans) (ho : o ≤ script.length)
    (hnext : ∀ c ∈ script[o]?, isDigit c = false ∧ isWordChar c = false)
    (hnewline : script[o]? ≠ some '\n') (hcomment : ∀ j, k ≤ j → ¬ Comment script spans j o) :
    Reads script o k tokens spans := by
  have hlength : (script.take o).length = o := List.length_take_of_le ho
  induction h with
  | here => exact .here
  | @blank k c _ _ hc hblank _ ih =>
    have hk : k < o := by
      have := (List.getElem?_eq_some_iff.1 hc).1
      omega
    rw [List.getElem?_take, if_pos hk] at hc
    exact .blank hc hblank (ih fun j hj => hcomment j (by omega))
  | @comment k body rest _ spans hdrop hbody hrest hcolumn hreads ih =>
    have hk : k < o := by
      have := (List.getElem?_eq_some_iff.1 (drop_eq_cons hdrop).1).1
      omega
    rw [placeAt_take (Nat.le_of_lt hk)] at hcolumn
    have hsplit : script.drop k = '#' :: body ++ (rest ++ script.drop o) := by
      calc script.drop k
          = (script.take o ++ script.drop o).drop k := by rw [List.take_append_drop]
        _ = (script.take o).drop k ++ script.drop o := List.drop_append_of_le_length (by omega)
        _ = '#' :: body ++ (rest ++ script.drop o) := by rw [hdrop, List.append_assoc]
    refine .comment hsplit hbody ?_ hcolumn (ih fun j hj => hcomment j (by omega))
    cases rest with
    | cons c rest => exact hrest
    | nil =>
      have hend : k + ('#' :: body).length = o := by
        have hlen := congrArg List.length hdrop
        simp only [List.length_drop, List.length_append, List.length_nil] at hlen
        omega
      subst hend
      refine absurd (comment_of_drop hsplit hbody hcolumn hnewline ?_) (hcomment k (Nat.le_refl k))
      intro s hs
      have htiles : Tiles (script.take _) _ _ spans :=
        Reads.tiles (by rw [hlength]; exact hreads)
      obtain ⟨t, -, hstands⟩ := htiles.exists_token hs
      have hstart := htiles.start_le s hs
      have hstop := hstands.stop_le
      have hlt := hstands.start_lt
      omega
  | @token k stop t _ spans ht hreads ih =>
    refine .token (ht.of_take hnext) (ih fun j hj hlater => ?_)
    refine hcomment j (Nat.le_trans (Nat.le_of_lt ht.start_lt) hj) { hlater with uncovered := ?_ }
    intro m hjm hmo
    refine List.forall_mem_cons.2 ⟨fun hcovers => ?_, hlater.uncovered m hjm hmo⟩
    exact absurd hcovers.2 (Nat.not_lt.2 (Nat.le_trans hj hjm))

end Before

/-! ### Spans of tokens -/

section Unique

variable {script cs : List Char} {t : Token} {s s' : Span}

/-- The characters that spell a token are determined by it. -/
lemma Spells.eq_chars {next : Option Char} {kind : TokenKind} {value : Text}
    (h : Spells cs next kind value) :
    cs = if kind = .string then '"' :: value.chars ++ ['"'] else value.chars := by
  cases h with
  | integer => simp
  | string => simp
  | keyword => decide
  | identifier => simp
  | sign hsign =>
    rw [if_neg, Text.chars_ofChars]
    rintro rfl
    simp [signs] at hsign

lemma placeAt_inj {i j : Nat} (hi : i ≤ script.length) (hj : j ≤ script.length) :
    placeAt script i = placeAt script j ↔ i = j := by
  constructor
  · intro h
    by_contra hne
    rcases Nat.lt_or_gt_of_ne hne with hlt | hlt
    · exact absurd h (placeAt_lt hlt hj).ne
    · exact absurd h.symm (placeAt_lt hlt hi).ne
  · rintro rfl
    rfl

/-- A token stands in one span only. -/
lemma StandsIn.unique (h : StandsIn script t s) (h' : StandsIn script t s') : s = s' := by
  have hlt := h.start_lt
  have hle := h.stop_le
  have hlt' := h'.start_lt
  have hle' := h'.stop_le
  have hstart : s.start = s'.start := by
    have hplace : placeAt script s.start = placeAt script s'.start := by
      rw [← h.location, h'.location]
    exact (placeAt_inj (by omega) (by omega)).1 hplace
  have hchars : s.chars script = s'.chars script := by rw [h.spells.eq_chars, h'.spells.eq_chars]
  have hlength := congrArg List.length hchars
  simp only [Span.chars, List.length_take, List.length_drop] at hlength
  obtain ⟨start, stop⟩ := s
  obtain ⟨start', stop'⟩ := s'
  simp only [Span.mk.injEq]
  simp only at hstart hlt hle hlt' hle' hlength
  omega

end Unique

/-! ### The first fault -/

/-- Reading first goes wrong at the character number `o`, behind tokens that stand in these spans:
the character lies in none of them and in no comment. -/
structure FirstFault (script : List Char) (lexemes : List Token) (spans : List Span) (o : Nat)
    (message : Text) : Prop where
  standsIn : List.Forall₂ (StandsIn script) lexemes spans
  uncovered : ∀ s ∈ spans, ¬ s.Covers o
  uncommented : ∀ j, ¬ Comment script spans j o
  fault : LexFault script o message

/-- A fault that the scanner comes to is the first one. -/
lemma Reads.firstFault {script : List Char} {o : Nat} {lexemes : List Token} {spans : List Span}
    {message : Text} (h : Reads script o 0 lexemes spans) (hfault : LexFault script o message) :
    FirstFault script lexemes spans o message := by
  obtain ⟨hstands, hstop⟩ := h.standsIn
  obtain ⟨c, hc, -, -, -, hhash⟩ := hfault.getElem?
  refine ⟨hstands, fun s hs hcovers => Nat.not_lt.2 (hstop s hs) hcovers.2, fun j => ?_, hfault⟩
  refine h.not_comment (List.getElem?_eq_some_iff.1 hc).1 ?_ (Nat.zero_le j)
  rw [hc, Option.some.injEq]
  exact hhash

/-- The scanner comes to the first fault, if it can read the text before it. -/
lemma FirstFault.reads {script : List Char} {o : Nat} {lexemes : List Token}
    {spans spans' : List Span} {message : Text} (h : FirstFault script lexemes spans o message)
    (hreads : Reads (script.take o) o 0 lexemes spans') : Reads script o 0 lexemes spans := by
  obtain ⟨c, hc, hblank, hdigit, hword, -⟩ := h.fault.getElem?
  have hnext : ∀ d ∈ script[o]?, isDigit d = false ∧ isWordChar d = false := by
    intro d hd
    obtain rfl : c = d := Option.some.inj (hc.symm.trans hd)
    exact ⟨hdigit, hword⟩
  have hnewline : script[o]? ≠ some '\n' := by
    rw [hc]
    rintro ⟨⟩
    cases hblank
  have hstands : List.Forall₂ (StandsIn script) lexemes spans' :=
    hreads.standsIn.1.imp fun t s hs => hs.of_take hnext
  have hunique : Relator.RightUnique (StandsIn script) := fun t s s' hs hs' => hs.unique hs'
  obtain rfl : spans = spans' := List.right_unique_forall₂' hunique h.standsIn hstands
  exact hreads.of_take (Nat.le_of_lt (List.getElem?_eq_some_iff.1 hc).1) hnext hnewline
    fun j _ => h.uncommented j

/-- **A script that cannot be read is reported where reading first goes wrong.**  The first run of
the lexer fails if and only if its error is placed at the first fault: the text before the fault can
be read on its own, as the tokens that the run has got; the fault lies in none of these tokens and
in no comment; and it is a quote without a closing one behind it, or a character that begins
nothing, as the message says. -/
theorem run_eq_error_iff_firstFault {script : Text} {e : LexError} :
    (Lexer.ofText script).run.1 = .error e ↔
      ∃ o lexemes spans,
        (∀ i ≤ script.chars.length, placeAt script.chars i = e.location ↔ i = o) ∧
        (∃ before after, script = before ++ after ∧ before.chars = script.chars.take o ∧
          (Lexer.ofText before).run.1 = .ok (lexemes ++ [Token.endAt e.location])) ∧
        (Lexer.ofText script).run.2.tokens = lexemes ++ [⟨.error, e.message, e.location⟩] ∧
        FirstFault script.chars lexemes spans o e.message := by
  constructor
  · intro h
    obtain ⟨l, message⟩ := e
    have herror := tokenize_eq_error_iff.1 h
    obtain ⟨o, lexemes, spans, hreads, rfl, hfault⟩ :=
      exists_fault_of_scan List.drop_zero (Nat.zero_le _) (placeAt_zero _).symm herror
    obtain ⟨c, hc, -⟩ := hfault.getElem?
    have ho : o ≤ script.chars.length := Nat.le_of_lt (List.getElem?_eq_some_iff.1 hc).1
    refine ⟨o, lexemes, spans, fun i hi => placeAt_inj hi ho, ?_, ?_, hreads.firstFault hfault⟩
    · obtain ⟨before, after, hsplit, hbefore, -⟩ := script.exists_append_chars o
      refine ⟨before, after, hsplit, hbefore, tokenize_eq_ok_iff.2 ?_⟩
      obtain ⟨hnone, htokens⟩ := (hreads.take ho).scan_eq
      rw [placeAt_zero, List.drop_zero, List.drop_take_self, scan] at hnone htokens
      rw [hbefore, hnone, htokens, placeAt_take (Nat.le_refl o)]
      exact ⟨rfl, rfl⟩
    · have htokens := hreads.scan_eq.2
      rw [placeAt_zero, List.drop_zero, hfault.scan_eq.2] at htokens
      exact htokens
  · rintro ⟨o, lexemes, spans, hplace, ⟨before, after, -, hbefore, hrun⟩, -, hfirst⟩
    obtain ⟨c, hc, -⟩ := hfirst.fault.getElem?
    have ho : o ≤ script.chars.length := Nat.le_of_lt (List.getElem?_eq_some_iff.1 hc).1
    obtain ⟨lexemes', spans', htokens, hreads⟩ := tokenize_reads hrun
    obtain rfl : lexemes = lexemes' := (List.append_inj' htokens rfl).1
    rw [hbefore, List.length_take_of_le ho] at hreads
    have herror := (hfirst.reads hreads).scan_eq.1
    rw [placeAt_zero, List.drop_zero, hfirst.fault.scan_eq.1, (hplace o ho).2 rfl] at herror
    exact tokenize_eq_error_iff.2 herror

end LetScript
