import LetScript.Token.Lexer
import Mathlib.Data.List.TakeWhile
import Mathlib.Tactic.Common

/-!
# What the lexer does

The steps of the scanner as equations, and what a lexeme and a scan make of a newline behind them.
A newline ends whatever is being read: so a script that can be read is read to its end before the
newline, and the scanner begins again on the next line.  Later proofs use these facts and do not look
into `lexeme` and `scan` again, unless they ask what a lexeme is made of.
-/

namespace LetScript

section Runs

variable {c : Char} {cs w rest : List Char}

/-! ### Runs of characters -/

/-- A run of characters of a class ends where they do, if the class does not go on. -/
lemma takeWhile_append_of_head {p : Char → Bool} (hw : ∀ c ∈ w, p c = true)
    (hrest : ∀ c ∈ rest.head?, p c = false) :
    (w ++ rest).takeWhile p = w ∧ (w ++ rest).dropWhile p = rest := by
  rw [List.takeWhile_append_of_pos hw, List.dropWhile_append_of_pos hw]
  cases rest with
  | nil => simp
  | cons d rest => simp [hrest d rfl]

/-- A character that stops a run keeps everything behind it out of the run. -/
lemma takeWhile_append_stop {p : Char → Bool} (hc : p c = false) (cs ds : List Char) :
    (cs ++ c :: ds).takeWhile p = cs.takeWhile p ∧
      (cs ++ c :: ds).dropWhile p = cs.dropWhile p ++ c :: ds := by
  induction cs with
  | nil => simp [hc]
  | cons d cs ih => cases hd : p d <;> simp [hd, ih]

/-- So does a character that has stopped it before. -/
lemma takeWhile_append_stopped {p : Char → Bool} (h : cs.dropWhile p = c :: rest)
    (ds : List Char) : (cs ++ ds).takeWhile p = cs.takeWhile p ∧
      (cs ++ ds).dropWhile p = c :: (rest ++ ds) := by
  induction cs with
  | nil => cases h
  | cons d cs ih =>
    cases hd : p d with
    | true =>
      rw [List.dropWhile_cons_of_pos hd] at h
      simp [hd, ih h]
    | false =>
      rw [List.dropWhile_cons_of_neg (by simp [hd])] at h
      cases h
      simp [hd]

end Runs

section Scanner

variable {l : Location} {c : Char} {cs rest : List Char}

/-! ### The steps of the scanner -/

lemma scan_comment (h : c = '#' ∧ l.column = 1) : scan l (c :: rest)
    = scan (l.afterAll (c :: rest.takeWhile (· ≠ '\n'))) (rest.dropWhile (· ≠ '\n')) := by
  rw [scan, if_pos h]

lemma scan_blank (hcomment : ¬ (c = '#' ∧ l.column = 1)) (hblank : isBlank c = true) :
    scan l (c :: rest) = scan (l.after c) rest := by
  rw [scan, if_neg hcomment, if_pos hblank]

lemma scan_fault (hcomment : ¬ (c = '#' ∧ l.column = 1)) (hblank : ¬ isBlank c = true)
    (h : (lexeme c rest).kind = .error) : scan l (c :: rest)
      = ⟨[⟨(lexeme c rest).kind, (lexeme c rest).value, l⟩], some ⟨l, (lexeme c rest).value⟩,
        l.afterAll (lexeme c rest).spelling, (lexeme c rest).rest⟩ := by
  rw [scan, if_neg hcomment, if_neg hblank]
  exact if_pos h

lemma scan_lexeme (hcomment : ¬ (c = '#' ∧ l.column = 1)) (hblank : ¬ isBlank c = true)
    (h : (lexeme c rest).kind ≠ .error) : scan l (c :: rest)
      = { scan (l.afterAll (lexeme c rest).spelling) (lexeme c rest).rest with
          tokens := ⟨(lexeme c rest).kind, (lexeme c rest).value, l⟩ ::
            (scan (l.afterAll (lexeme c rest).spelling) (lexeme c rest).rest).tokens } := by
  rw [scan, if_neg hcomment, if_neg hblank]
  exact if_neg h

/-- A lexeme and what is behind it are all there is, also if the lexeme has a fault. -/
lemma lexeme_append (c : Char) (rest : List Char) :
    (lexeme c rest).spelling ++ (lexeme c rest).rest = c :: rest := by
  unfold lexeme
  split_ifs with hdigit hquote hword
  · simp
  · have hsplit := List.takeWhile_append_dropWhile (p := (· ≠ '"')) (l := rest)
    cases hclose : rest.dropWhile (· ≠ '"') with
    | nil =>
      rw [hclose] at hsplit
      exact congrArg (c :: ·) hsplit
    | cons quote rest' =>
      rw [hclose] at hsplit
      nth_rewrite 3 [← hsplit]
      simp
  · simp
  · split <;> rfl

lemma lexeme_spelling_ne_nil (c : Char) (rest : List Char) : (lexeme c rest).spelling ≠ [] := by
  intro hnil
  have happend := lexeme_append c rest
  have hle := lexeme_rest_length_le c rest
  rw [hnil, List.nil_append] at happend
  rw [happend, List.length_cons] at hle
  omega

/-! ### Newlines -/

/-- A newline behind a lexeme is not part of it: numbers, words and signs end there, and a string has
ended before. -/
lemma lexeme_append_newline (h : (lexeme c rest).kind ≠ .error) (ds : List Char) :
    lexeme c (rest ++ '\n' :: ds)
      = { lexeme c rest with rest := (lexeme c rest).rest ++ '\n' :: ds } := by
  have hdigit : isDigit '\n' = false := by decide
  have hword : isWordChar '\n' = false := by decide
  unfold lexeme at h ⊢
  split_ifs at h ⊢
  · simp [takeWhile_append_stop hdigit]
  · cases hdrop : rest.dropWhile (· ≠ '"') with
    | nil =>
      simp only [hdrop] at h
      exact absurd rfl h
    | cons quote rest' =>
      obtain ⟨htake, hdrop'⟩ := takeWhile_append_stopped hdrop ('\n' :: ds)
      simp only [htake, hdrop']
  · simp [takeWhile_append_stop hword]
  · cases hkind : operatorKind? c with
    | none => simp [hkind] at h
    | some kind => rfl

/-- The scan of a script is over at a newline behind it, and begins again on the next line. -/
lemma scan_append_newline (h : (scan l cs).error = none) :
    ∃ lexemes, (scan l cs).tokens = lexemes ++ [Token.endAt (l.afterAll cs)] ∧
      ∀ ds, scan l (cs ++ '\n' :: ds) = { scan ((l.afterAll cs).after '\n') ds with
        tokens := lexemes ++ (scan ((l.afterAll cs).after '\n') ds).tokens } := by
  fun_induction scan l cs with
  | case1 l =>
    refine ⟨[], rfl, fun ds => ?_⟩
    rw [List.nil_append, scan_blank (by simp) (by decide)]
    rfl
  | case2 l c rest hcomment ih =>
    have hstop : decide ('\n' ≠ '\n') = false := by decide
    obtain ⟨lexemes, htokens, happend⟩ := ih h
    rw [← Location.afterAll_append, List.cons_append, List.takeWhile_append_dropWhile]
      at htokens happend
    refine ⟨lexemes, htokens, fun ds => ?_⟩
    obtain ⟨htake, hdrop⟩ := takeWhile_append_stop (p := (· ≠ '\n')) hstop rest ds
    rw [List.cons_append, scan_comment hcomment, htake, hdrop]
    exact happend ds
  | case3 l c rest hcomment hblank ih =>
    obtain ⟨lexemes, htokens, happend⟩ := ih h
    refine ⟨lexemes, htokens, fun ds => ?_⟩
    rw [List.cons_append, scan_blank hcomment hblank]
    exact happend ds
  | case4 => cases h
  | case5 l c rest hcomment hblank x token herror s ih =>
    obtain ⟨lexemes, htokens, happend⟩ := ih h
    rw [← Location.afterAll_append, lexeme_append] at htokens happend
    refine ⟨token :: lexemes, congrArg _ htokens, fun ds => ?_⟩
    have hlexeme := lexeme_append_newline herror ds
    have herror' : (lexeme c (rest ++ '\n' :: ds)).kind ≠ .error := by
      rw [hlexeme]
      exact herror
    rw [List.cons_append, scan_lexeme hcomment hblank herror', hlexeme, happend ds]
    rfl

/-- A newline at the end mends no fault. -/
lemma lexeme_kind_append_newline (h : (lexeme c rest).kind = .error) :
    (lexeme c (rest ++ ['\n'])).kind = .error := by
  unfold lexeme at h ⊢
  split_ifs at h ⊢ with hdigit hquote hword
  · cases hclose : rest.dropWhile (· ≠ '"') with
    | nil =>
      have hopen : (rest ++ ['\n']).dropWhile (· ≠ '"') = [] := by
        rw [List.dropWhile_eq_nil_iff] at hclose ⊢
        exact List.forall_mem_append.2 ⟨hclose, by simp⟩
      rw [hopen]
    | cons quote rest' =>
      simp only [hclose] at h
      cases h
  · simp only [wordKind] at h
    split at h <;> cases h
  · cases hkind : operatorKind? c with
    | none => rfl
    | some kind => simpa [hkind] using h

/-- If lines can be read with the newline at their end, then also without it. -/
lemma scan_of_append_newline (h : (scan l (cs ++ ['\n'])).error = none) :
    (scan l cs).error = none := by
  fun_induction scan l cs with
  | case1 l => rfl
  | case2 l c rest hcomment ih =>
    have hstop : decide ('\n' ≠ '\n') = false := by decide
    obtain ⟨htake, hdrop⟩ := takeWhile_append_stop (p := (· ≠ '\n')) hstop rest []
    rw [List.cons_append, scan_comment hcomment, htake, hdrop] at h
    exact ih h
  | case3 l c rest hcomment hblank ih =>
    rw [List.cons_append, scan_blank hcomment hblank] at h
    exact ih h
  | case4 l c rest hcomment hblank x token herror =>
    rw [List.cons_append,
      scan_fault hcomment hblank (lexeme_kind_append_newline herror)] at h
    cases h
  | case5 l c rest hcomment hblank x token herror s ih =>
    have hlexeme := lexeme_append_newline herror []
    have herror' : (lexeme c (rest ++ ['\n'])).kind ≠ .error := by
      rw [hlexeme]
      exact herror
    rw [List.cons_append, scan_lexeme hcomment hblank herror', hlexeme] at h
    exact ih h

end Scanner

/-! ### The first run of the lexer -/

lemma tokens_run_ofText (script : Text) :
    (Lexer.ofText script).run.2.tokens = (scan Location.start script.chars).tokens := rfl

lemma index_run_ofText (script : Text) : (Lexer.ofText script).run.2.cursor.index
    = script.chars.length - (scan Location.start script.chars).rest.length :=
  Nat.zero_add _

lemma tokenize_eq (script : Text) : tokenize script =
    match (scan Location.start script.chars).error with
    | some e => .error e
    | none => .ok (scan Location.start script.chars).tokens := rfl

lemma tokenize_eq_ok_iff {script : Text} {tokens : List Token} : tokenize script = .ok tokens ↔
    (scan Location.start script.chars).error = none ∧
      (scan Location.start script.chars).tokens = tokens := by
  rw [tokenize_eq]
  rcases (scan Location.start script.chars).error with _ | e <;> simp

lemma tokenize_eq_ok {script : Text} {tokens : List Token}
    (h : (tokenize script).toOption = some tokens) : tokenize script = .ok tokens := by
  revert h
  cases tokenize script <;> simp [Except.toOption]

lemma tokenize_eq_error_iff {script : Text} {e : LexError} : tokenize script = .error e ↔
    (scan Location.start script.chars).error = some e := by
  rw [tokenize_eq]
  rcases (scan Location.start script.chars).error with _ | e' <;> simp

end LetScript
