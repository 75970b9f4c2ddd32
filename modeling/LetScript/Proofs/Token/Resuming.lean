import LetScript.Proofs.Token.Spelling

/-!
# Reading on behind faults

A run of the lexer stops behind the first fault, and keeps the tokens read so far and one for the
fault.  The next run goes on from there.  Since a fault takes at least one character, a lexer that
is run again and again comes to the end of its script, and from then on every run only adds one more
end.

What a single scan can come to is said once, in `Scanned`; what a run does to a lexer, and from that
what a sequence of runs does (`GetsThrough`), follows without looking at characters again.
-/

namespace LetScript

/-- The token that a fault leaves behind. -/
def LexError.token (e : LexError) : Token := ⟨.error, e.message, e.location⟩

/-! ### One scan -/

/-- What the scan of some characters comes to.  Either it reads all of them, or it stops at a fault
with one character less at least. -/
inductive Scanned (l : Location) (cs : List Char) : Scan → Prop
  | finished (lexemes : List Token) (hlexemes : ∀ t ∈ lexemes, t.kind ≠ .error) :
      Scanned l cs ⟨lexemes ++ [Token.endAt (l.afterAll cs)], none, l.afterAll cs, []⟩
  | stopped (lexemes : List Token) {taken rest : List Char} {e : LexError}
      (hlexemes : ∀ t ∈ lexemes, t.kind ≠ .error) (hsplit : cs = taken ++ rest)
      (htaken : taken ≠ []) :
      Scanned l cs ⟨lexemes ++ [e.token], some e, l.afterAll taken, rest⟩

/-- A scan that goes on behind some characters and the tokens in them. -/
lemma Scanned.behind {l : Location} {used rest : List Char} {s : Scan}
    (h : Scanned (l.afterAll used) rest s) {ts : List Token} (hts : ∀ t ∈ ts, t.kind ≠ .error) :
    Scanned l (used ++ rest) { s with tokens := ts ++ s.tokens } := by
  cases h with
  | finished lexemes hlexemes =>
    rw [← Location.afterAll_append, ← List.append_assoc]
    exact .finished _ (List.forall_mem_append.2 ⟨hts, hlexemes⟩)
  | stopped lexemes hlexemes hsplit htaken =>
    rw [← Location.afterAll_append, ← List.append_assoc]
    refine .stopped _ (List.forall_mem_append.2 ⟨hts, hlexemes⟩) ?_ ?_
    · rw [hsplit, List.append_assoc]
    · exact List.append_ne_nil_of_right_ne_nil used htaken

/-- **A scan reads all of its characters or stops at a fault.** -/
theorem scan_scanned (l : Location) (cs : List Char) : Scanned l cs (scan l cs) := by
  have hnone : ∀ t ∈ ([] : List Token), t.kind ≠ .error := by simp
  fun_induction scan l cs with
  | case1 l => exact .finished [] hnone
  | case2 l c rest hcomment ih =>
    have hscanned := ih.behind hnone
    rwa [List.cons_append, List.takeWhile_append_dropWhile] at hscanned
  | case3 l c rest hcomment hblank ih =>
    have hscanned : Scanned (l.afterAll [c]) rest (scan (l.after c) rest) := ih
    exact hscanned.behind hnone
  | case4 l c rest hcomment hblank x token herror =>
    have htoken : token = LexError.token ⟨l, x.value⟩ := by simp [token, LexError.token, herror]
    rw [htoken]
    exact .stopped [] hnone (lexeme_append c rest).symm (lexeme_spelling_ne_nil c rest)
  | case5 l c rest hcomment hblank x token herror s ih =>
    have htoken : ∀ t ∈ [token], t.kind ≠ .error := by simpa using herror
    have hscanned := ih.behind htoken
    rwa [lexeme_append] at hscanned

lemma length_rest_scan_le (l : Location) (cs : List Char) :
    (scan l cs).rest.length ≤ cs.length := by
  have hscanned := scan_scanned l cs
  generalize scan l cs = s at hscanned ⊢
  cases hscanned with
  | finished => exact Nat.zero_le _
  | stopped _ _ hsplit _ =>
    rw [hsplit, List.length_append]
    exact Nat.le_add_left _ _

/-! ### Runs -/

namespace Lexer

/-- The lexer behind so many runs. -/
def afterRuns (l : Lexer) : Nat → Lexer
  | 0 => l
  | n + 1 => l.run.2.afterRuns n

lemma afterRuns_add (l : Lexer) (m n : Nat) :
    l.afterRuns (m + n) = (l.afterRuns m).afterRuns n := by
  induction m generalizing l with
  | zero => rw [Nat.zero_add, afterRuns]
  | succ m ih => rw [Nat.succ_add, afterRuns, ih, afterRuns]

/-- The place behind the last character. -/
def stop (l : Lexer) : Location := l.location.afterAll l.rest

/-- What a run does.  It comes to the end, or it fails and leaves less to be read. -/
lemma run_cases (l : Lexer) :
    (∃ lexemes, (∀ t ∈ lexemes, t.kind ≠ .error) ∧
      l.run = (.ok (l.tokens ++ (lexemes ++ [Token.endAt l.stop])),
        ⟨l.cursor.moveTo [], l.stop, l.tokens ++ (lexemes ++ [Token.endAt l.stop])⟩)) ∨
    ∃ e lexemes taken rest, (∀ t ∈ lexemes, t.kind ≠ .error) ∧ l.rest = taken ++ rest ∧
      taken ≠ [] ∧
      l.run = (.error e,
        ⟨l.cursor.moveTo rest, l.location.afterAll taken, l.tokens ++ (lexemes ++ [e.token])⟩) := by
  have hscanned := scan_scanned l.location l.rest
  rw [run]
  generalize scan l.location l.rest = s at hscanned
  cases hscanned with
  | finished lexemes hlexemes => exact .inl ⟨lexemes, hlexemes, rfl⟩
  | stopped lexemes hlexemes hsplit htaken =>
    exact .inr ⟨_, lexemes, _, _, hlexemes, hsplit, htaken, rfl⟩

/-- At the end a run finds the end once more. -/
lemma run_at_end {c : Cursor Char} (hc : c.rest = []) (place : Location) (tokens : List Token) :
    (Lexer.mk c place tokens).run
      = (.ok (tokens ++ [Token.endAt place]), ⟨c, place, tokens ++ [Token.endAt place]⟩) := by
  have hrest : (Lexer.mk c place tokens).rest = [] := hc
  have hmove : c.moveTo [] = c := by rw [← hc, Cursor.moveTo_rest]
  rw [run, hrest, scan]
  simp only [hmove]

lemma afterRuns_at_end {c : Cursor Char} (hc : c.rest = []) (place : Location) (tokens : List Token)
    (n : Nat) : (Lexer.mk c place tokens).afterRuns n
      = ⟨c, place, tokens ++ List.replicate n (Token.endAt place)⟩ := by
  induction n generalizing tokens with
  | zero => simp [afterRuns]
  | succ n ih =>
    rw [afterRuns, run_at_end hc, ih, List.append_assoc, List.singleton_append, List.replicate_succ]

/-- Run after run, the lexer fails with these errors; then it comes to the end, with these tokens
read in all the runs together. -/
structure GetsThrough (l : Lexer) (errors : List LexError) (read : List Token) : Prop where
  length_le : errors.length ≤ l.rest.length
  fails : ∀ i e, errors[i]? = some e → (l.afterRuns i).run.1 = .error e
  takes : ∀ i < errors.length, ∃ taken, taken ≠ [] ∧
    (l.afterRuns i).rest = taken ++ (l.afterRuns (i + 1)).rest
  finishes : ∃ c : Cursor Char, c.rest = [] ∧
    (l.afterRuns errors.length).run = (.ok (l.tokens ++ (read ++ [Token.endAt l.stop])),
      ⟨c, l.stop, l.tokens ++ (read ++ [Token.endAt l.stop])⟩)
  faults : read.filter (·.kind = .error) = errors.map LexError.token

lemma filter_error_eq_nil {lexemes : List Token} (h : ∀ t ∈ lexemes, t.kind ≠ .error) :
    lexemes.filter (·.kind = .error) = [] :=
  List.filter_eq_nil_iff.2 (by simpa using h)

/-- A failing run in front of the others. -/
lemma GetsThrough.cons {l : Lexer} {e : LexError} {errors : List LexError}
    {lexemes read : List Token} {taken rest : List Char}
    (hlexemes : ∀ t ∈ lexemes, t.kind ≠ .error) (hsplit : l.rest = taken ++ rest)
    (htaken : taken ≠ [])
    (hrun : l.run = (.error e,
      ⟨l.cursor.moveTo rest, l.location.afterAll taken, l.tokens ++ (lexemes ++ [e.token])⟩))
    (h : GetsThrough l.run.2 errors read) :
    GetsThrough l (e :: errors) (lexemes ++ e.token :: read) := by
  have hrest : l.run.2.rest = rest := by
    rw [hrun]
    rfl
  have hstop : l.run.2.stop = l.stop := by
    rw [stop, hrest, hrun, stop, hsplit, Location.afterAll_append]
  refine ⟨?_, ?_, ?_, ?_, ?_⟩
  · have hpos := List.length_pos_iff.2 htaken
    have hle := h.length_le
    rw [hsplit, List.length_append, List.length_cons]
    rw [hrest] at hle
    omega
  · intro i e' he'
    cases i with
    | zero =>
      obtain rfl : e = e' := by simpa using he'
      rw [afterRuns, hrun]
    | succ i => exact h.fails i e' (by simpa using he')
  · intro i hi
    cases i with
    | zero =>
      refine ⟨taken, htaken, ?_⟩
      rw [afterRuns, afterRuns, afterRuns, hrest, hsplit]
    | succ i => exact h.takes i (Nat.lt_of_succ_lt_succ hi)
  · have htokens : l.run.2.tokens = l.tokens ++ (lexemes ++ [e.token]) := by rw [hrun]
    obtain ⟨c, hc, hfinishes⟩ := h.finishes
    rw [hstop, htokens] at hfinishes
    refine ⟨c, hc, ?_⟩
    rw [List.length_cons, afterRuns, hfinishes]
    simp
  · have hfault : e.token.kind = .error := rfl
    rw [List.filter_append, filter_error_eq_nil hlexemes, List.nil_append,
      List.filter_cons_of_pos (by simp [hfault]), h.faults, List.map_cons]

/-- **A lexer gets through its script.** -/
theorem exists_getsThrough (l : Lexer) : ∃ errors read, GetsThrough l errors read := by
  -- a failing run leaves less to be read
  induction hlength : l.rest.length using Nat.strongRecOn generalizing l with
  | ind n ih =>
    rcases l.run_cases with ⟨lexemes, hlexemes, hrun⟩ |
      ⟨e, lexemes, taken, rest, hlexemes, hsplit, htaken, hrun⟩
    · exact ⟨[], lexemes, Nat.zero_le _, by simp, by simp, ⟨_, rfl, hrun⟩,
        filter_error_eq_nil hlexemes⟩
    · have hless : l.run.2.rest.length < n := by
        have hpos := List.length_pos_iff.2 htaken
        rw [← hlength, hrun, hsplit, List.length_append]
        exact Nat.lt_add_of_pos_left hpos
      obtain ⟨errors, read, hthrough⟩ := ih _ hless l.run.2 rfl
      exact ⟨_, _, .cons hlexemes hsplit htaken hrun hthrough⟩

/-- Every run behind the failing ones succeeds, and adds one more end. -/
lemma GetsThrough.run_eq {l : Lexer} {errors : List LexError} {read : List Token}
    (h : GetsThrough l errors read) (j : Nat) : (l.afterRuns (errors.length + j)).run.1
      = .ok (l.tokens ++ (read ++ [Token.endAt l.stop])
        ++ List.replicate j (Token.endAt l.stop)) := by
  obtain ⟨c, hc, hfinishes⟩ := h.finishes
  rw [afterRuns_add]
  cases j with
  | zero => rw [afterRuns, hfinishes, List.replicate_zero, List.append_nil]
  | succ j =>
    rw [afterRuns, hfinishes, afterRuns_at_end hc, run_at_end hc, List.replicate_succ',
      List.append_assoc]

end Lexer

/-- **A lexer that is run again and again gets through its script.**  For every script there is a
number `k`, at most the number of its characters, such that the first `k` runs of one lexer fail,
each of them taking at least one character, and all later runs succeed.  The list of the first run
that succeeds ends with the end of the script and has `k` tokens for faults, which are those of the
`k` errors in order.  Every further run returns the list before it with the same end once more. -/
theorem afterRuns_ofText (script : Text) :
    let lexer := (Lexer.ofText script).afterRuns
    let theEnd := Token.endAt (placeAt script.chars script.chars.length)
    ∃ k ≤ script.chars.length, ∃ (errors : List LexError) (tokens : List Token),
      errors.length = k ∧
      (∀ i e, errors[i]? = some e → (lexer i).run.1 = .error e) ∧
      (∀ i < k, ∃ taken, taken ≠ [] ∧ (lexer i).rest = taken ++ (lexer (i + 1)).rest) ∧
      tokens.getLast? = some theEnd ∧
      tokens.filter (·.kind = .error) = errors.map LexError.token ∧
      ∀ j, (lexer (k + j)).run.1 = .ok (tokens ++ List.replicate j theEnd) := by
  intro lexer theEnd
  obtain ⟨errors, read, h⟩ := Lexer.exists_getsThrough (Lexer.ofText script)
  have hend : Token.endAt (Lexer.ofText script).stop = theEnd :=
    congrArg Token.endAt (placeAt_length script.chars).symm
  have hkind : theEnd.kind ≠ .error := by simp [theEnd, Token.endAt]
  refine ⟨errors.length, h.length_le, errors, read ++ [theEnd], rfl, h.fails, h.takes, ?_, ?_, ?_⟩
  · exact List.getLast?_concat
  · have hnone := Lexer.filter_error_eq_nil (List.forall_mem_singleton.2 hkind)
    rw [List.filter_append, h.faults, hnone, List.append_nil]
  · intro j
    have hrun := h.run_eq j
    rwa [hend] at hrun

/-- The third run behind a symbol that begins nothing and a string that is not closed. -/
example : ((Lexer.ofText "1 ! 2 \"a").afterRuns 2).run.1.toOption
    = some [⟨.integer, "1", ⟨1, 1⟩⟩, ⟨.error, "invalid symbol '!'", ⟨1, 3⟩⟩,
      ⟨.integer, "2", ⟨1, 5⟩⟩, ⟨.error, "unclosed string: a", ⟨1, 7⟩⟩, Token.endAt ⟨1, 9⟩] := by
  decide +kernel

end LetScript
