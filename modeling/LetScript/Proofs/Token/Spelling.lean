import LetScript.Proofs.Text.Utf8
import LetScript.Proofs.Token.Tiling

/-!
# Writing scripts

Every sequence of lexemes can be written down and read back.  It is enough to put white space
between them: white space goes on neither a number nor a word, so the scanner comes to the beginning
of the next lexeme with nothing of it consumed.

The step from one lexeme to the next is `scan_spells`: characters that spell a token are read as
this token, whatever stands behind them, as long as it does not go on the spelling.
-/

namespace LetScript

/-- The place behind a script. -/
lemma placeAt_length (script : List Char) :
    placeAt script script.length = Location.start.afterAll script := by
  have hplace : placeAt script (0 + script.length) = (placeAt script 0).afterAll script :=
    placeAt_add (List.drop_zero.trans (List.append_nil script).symm)
  rwa [Nat.zero_add, placeAt_zero] at hplace

/-- Along a line only the column moves on. -/
lemma Location.afterAll_of_notMem (l : Location) {cs : List Char} (h : '\n' ∉ cs) :
    l.afterAll cs = ⟨l.line, l.column + (cs.length : Nat)⟩ := by
  induction cs generalizing l with
  | nil => simp
  | cons c cs ih =>
    obtain ⟨hc, hcs⟩ := not_or.1 (mt List.mem_cons.2 h)
    rw [afterAll_cons, after, if_neg (Ne.symm hc), ih _ hcs, List.length_cons]
    congr 1
    push_cast
    omega

/-! ### Classes of characters -/

/-- What holds of finitely many code points holds of the characters that have them. -/
lemma forall_of_codes {p : Char → Prop} {codes : List Nat} (h : ∀ n ∈ codes, p (Char.ofNat n))
    {c : Char} (hc : c.toNat ∈ codes) : p c := by
  have hchar := h _ hc
  rwa [Char.ofNat_toNat] at hchar

lemma toNat_mem_of_isDigit {c : Char} (h : isDigit c = true) : c.toNat ∈ List.range' 48 10 := by
  simp only [isDigit, Bool.and_eq_true, decide_eq_true_eq, Char.le_def, UInt32.le_iff_toNat_le] at h
  have hlow : 48 ≤ c.toNat := h.1
  have hhigh : c.toNat ≤ 57 := h.2
  exact List.mem_range'_1.2 ⟨hlow, by omega⟩

lemma toNat_mem_of_isBlank {c : Char} (h : isBlank c = true) :
    c.toNat ∈ List.range' 0x09 5 ++ List.range' 0x2000 11
      ++ [0x20, 0x85, 0xA0, 0x1680, 0x2028, 0x2029, 0x202F, 0x205F, 0x3000] := by
  simp only [isBlank, Bool.or_eq_true, Bool.and_eq_true, decide_eq_true_eq] at h
  simp only [List.mem_append, List.mem_range'_1, List.mem_cons, List.not_mem_nil, or_false]
  omega

lemma isWordChar_of_isDigit {c : Char} (h : isDigit c = true) : isWordChar c = false :=
  forall_of_codes (p := fun c => isWordChar c = false) (by decide +kernel) (toNat_mem_of_isDigit h)

/-- White space goes on neither a number nor a word. -/
lemma isDigit_isWordChar_of_isBlank {c : Char} (h : isBlank c = true) :
    isDigit c = false ∧ isWordChar c = false :=
  forall_of_codes (p := fun c => isDigit c = false ∧ isWordChar c = false) (by decide +kernel)
    (toNat_mem_of_isBlank h)

/-! ### Characters that spell a token -/

section Spelled

variable {c : Char} {w cs rest : List Char} {next : Option Char} {kind : TokenKind} {value : Text}

/-- A token begins neither with white space nor as a comment does. -/
lemma Spells.head (h : Spells (c :: w) next kind value) : ¬ isBlank c = true ∧ c ≠ '#' := by
  generalize hcs : c :: w = cs at h
  cases h with
  | integer _ hdigits _ =>
    subst hcs
    have hc := hdigits c List.mem_cons_self
    constructor
    · intro hblank
      simp [(isDigit_isWordChar_of_isBlank hblank).1] at hc
    · rintro rfl
      cases hc
  | string _ =>
    cases hcs
    decide
  | keyword _ =>
    cases hcs
    decide
  | identifier _ hword _ _ =>
    subst hcs
    have hc := hword c List.mem_cons_self
    constructor
    · intro hblank
      simp [(isDigit_isWordChar_of_isBlank hblank).2] at hc
    · rintro rfl
      revert hc
      decide
  | @sign d _ _ hsign =>
    obtain ⟨rfl, -⟩ := List.cons.inj hcs
    simp only [signs, List.mem_cons, Prod.mk.injEq, List.not_mem_nil, or_false] at hsign
    rcases hsign with ⟨rfl, -⟩ | ⟨rfl, -⟩ | ⟨rfl, -⟩ | ⟨rfl, -⟩ | ⟨rfl, -⟩ | ⟨rfl, -⟩ <;> decide

lemma lexeme_word (hword : ∀ d ∈ c :: w, isWordChar d = true)
    (hnext : ∀ d ∈ rest.head?, isWordChar d = false) :
    lexeme c (w ++ rest) = ⟨wordKind (c :: w), Text.ofChars (c :: w), c :: w, rest⟩ := by
  obtain ⟨hc, hw⟩ := List.forall_mem_cons.1 hword
  obtain ⟨htake, hdrop⟩ := takeWhile_append_of_head hw hnext
  have hdigit : ¬ isDigit c = true := by
    intro hdigit
    simp [isWordChar_of_isDigit hdigit] at hc
  have hquote : c ≠ '"' := by
    rintro rfl
    revert hc
    decide
  rw [lexeme, if_neg hdigit, if_neg hquote, if_pos hc, htake, hdrop]

/-- Characters that spell a token are a lexeme. -/
lemma lexeme_of_spells (h : Spells (c :: w) rest.head? kind value) :
    lexeme c (w ++ rest) = ⟨kind, value, c :: w, rest⟩ := by
  generalize hcs : c :: w = cs at h
  cases h with
  | integer _ hdigits hnext =>
    subst hcs
    obtain ⟨hc, hw⟩ := List.forall_mem_cons.1 hdigits
    obtain ⟨htake, hdrop⟩ := takeWhile_append_of_head hw hnext
    rw [lexeme, if_pos hc, htake, hdrop]
  | @string body _ hbody =>
    rw [List.cons_append] at hcs
    obtain ⟨rfl, rfl⟩ := List.cons.inj hcs
    have hinside : ∀ d ∈ body, decide (d ≠ '"') = true := by
      intro d hd
      exact decide_eq_true fun hquote => hbody (hquote ▸ hd)
    have hclose : ∀ d ∈ ('"' :: rest).head?, decide (d ≠ '"') = false := by simp
    obtain ⟨htake, hdrop⟩ := takeWhile_append_of_head hinside hclose
    rw [List.append_assoc, List.singleton_append, lexeme, if_neg (by decide), if_pos rfl, htake,
      hdrop]
  | keyword hnext =>
    cases hcs
    have hword : ['l', 'e', 't'].all isWordChar = true := by decide
    exact lexeme_word (List.all_eq_true.1 hword) hnext
  | identifier _ hword hlet hnext =>
    subst hcs
    rw [lexeme_word hword hnext, wordKind, if_neg hlet]
  | @sign d _ _ hsign =>
    obtain ⟨rfl, rfl⟩ := List.cons.inj hcs
    simp only [signs, List.mem_cons, Prod.mk.injEq, List.not_mem_nil, or_false] at hsign
    rcases hsign with ⟨rfl, rfl⟩ | ⟨rfl, rfl⟩ | ⟨rfl, rfl⟩ | ⟨rfl, rfl⟩ | ⟨rfl, rfl⟩ | ⟨rfl, rfl⟩
    all_goals rfl

/-- **The scanner reads what is spelled.**  Behind characters that spell a token it has this token
and goes on with what follows them. -/
theorem scan_spells {l : Location} (h : Spells cs rest.head? kind value) : scan l (cs ++ rest)
    = { scan (l.afterAll cs) rest with
        tokens := ⟨kind, value, l⟩ :: (scan (l.afterAll cs) rest).tokens } := by
  obtain ⟨c, w, rfl⟩ := List.exists_cons_of_ne_nil h.ne_nil
  have hlexeme := lexeme_of_spells h
  have hkind : (lexeme c (w ++ rest)).kind ≠ .error := by
    rw [hlexeme]
    exact h.kind_ne.2
  obtain ⟨hblank, hhash⟩ := h.head
  rw [List.cons_append, scan_lexeme (fun hcomment => hhash hcomment.1) hblank hkind, hlexeme]

lemma scan_blanks {l : Location} (hblank : ∀ c ∈ cs, isBlank c = true) :
    scan l (cs ++ rest) = scan (l.afterAll cs) rest := by
  induction cs generalizing l with
  | nil => rfl
  | cons c cs ih =>
    obtain ⟨hc, hcs⟩ := List.forall_mem_cons.1 hblank
    have hhash : ¬ (c = '#' ∧ l.column = 1) := by
      rintro ⟨rfl, -⟩
      cases hc
    rw [List.cons_append, scan_blank hhash hc, ih hcs, Location.afterAll_cons]

end Spelled

/-! ### Sequences of lexemes -/

/-- A lexeme as it is written: a number, a string in quotes, a word or a sign. -/
inductive Spelling where
  | number (digits : List Char) (hne : digits ≠ []) (hdigits : ∀ c ∈ digits, isDigit c = true)
  | string (body : List Char) (hbody : '"' ∉ body)
  | word (letters : List Char) (hne : letters ≠ [])
      (hletters : ∀ c ∈ letters, isLetter c = true ∨ c = '_')
  | sign (c : Char) (kind : TokenKind) (hsign : (c, kind) ∈ signs)

namespace Spelling

/-- How the lexeme is written. -/
def chars : Spelling → List Char
  | number digits _ _ => digits
  | string body _ => '"' :: body ++ ['"']
  | word letters _ _ => letters
  | sign c _ _ => [c]

/-- The kind of its token. -/
def kind : Spelling → TokenKind
  | number .. => .integer
  | string .. => .string
  | word letters _ _ => if letters = ['l', 'e', 't'] then .letKeyword else .identifier
  | sign _ kind _ => kind

/-- The value of its token: what is written, but a string without its quotes. -/
def value : Spelling → Text
  | number digits _ _ => Text.ofChars digits
  | string body _ => Text.ofChars body
  | word letters _ _ => Text.ofChars letters
  | sign c _ _ => Text.ofChars [c]

/-- With the end of the script or white space behind it, a lexeme is spelled as it is written. -/
lemma spells (x : Spelling) {next : Option Char} (hnext : ∀ c ∈ next, isBlank c = true) :
    Spells x.chars next x.kind x.value := by
  have hstop : ∀ c ∈ next, isDigit c = false ∧ isWordChar c = false :=
    fun c hc => isDigit_isWordChar_of_isBlank (hnext c hc)
  cases x with
  | number digits hne hdigits => exact .integer hne hdigits fun c hc => (hstop c hc).1
  | string body hbody => exact .string hbody
  | word letters hne hletters =>
    have hword : ∀ c ∈ letters, isWordChar c = true := by simpa [isWordChar] using hletters
    exact spells_word hne hword fun c hc => (hstop c hc).2
  | sign c kind hsign => exact .sign hsign

end Spelling

/-- Some white space. -/
structure Blanks where
  /-- What it consists of. -/
  chars : List Char
  ne_nil : chars ≠ []
  blank : ∀ c ∈ chars, isBlank c = true

/-- Lexemes one behind the other, with white space of any choice between them. -/
def spaced (gap : Nat → Blanks) : List Spelling → List Char
  | [] => []
  | [x] => x.chars
  | x :: y :: xs => x.chars ++ ((gap 0).chars ++ spaced (fun i => gap (i + 1)) (y :: xs))

/-- The token is one for the lexeme. -/
def Spelling.Yields (x : Spelling) (t : Token) : Prop := t.kind = x.kind ∧ t.value = x.value

lemma scan_spaced (gap : Nat → Blanks) (lexemes : List Spelling) (l : Location) :
    (scan l (spaced gap lexemes)).error = none ∧
      ∃ tokens, (scan l (spaced gap lexemes)).tokens
          = tokens ++ [Token.endAt (l.afterAll (spaced gap lexemes))] ∧
        List.Forall₂ Spelling.Yields lexemes tokens := by
  fun_induction spaced gap lexemes generalizing l with
  | case1 gap =>
    rw [scan]
    exact ⟨rfl, [], rfl, .nil⟩
  | case2 gap x =>
    have hspells : Spells x.chars ([] : List Char).head? x.kind x.value := x.spells (by simp)
    have hscan := scan_spells (l := l) hspells
    rw [List.append_nil, scan] at hscan
    rw [hscan]
    exact ⟨rfl, [⟨x.kind, x.value, l⟩], rfl, .cons ⟨rfl, rfl⟩ .nil⟩
  | case3 gap x y xs ih =>
    have hblank : ∀ c ∈ ((gap 0).chars ++ spaced (fun i => gap (i + 1)) (y :: xs)).head?,
        isBlank c = true := by
      intro c hc
      rw [List.head?_append_of_ne_nil _ (gap 0).ne_nil] at hc
      exact (gap 0).blank c (List.mem_of_mem_head? hc)
    obtain ⟨herror, tokens, htokens, hyields⟩ := ih ((l.afterAll x.chars).afterAll (gap 0).chars)
    rw [scan_spells (x.spells hblank), scan_blanks (gap 0).blank]
    refine ⟨herror, ⟨x.kind, x.value, l⟩ :: tokens, ?_, .cons ⟨rfl, rfl⟩ hyields⟩
    rw [Location.afterAll_append, Location.afterAll_append, List.cons_append, htokens]

/-- **Every sequence of lexemes can be written and read back.**  Whatever numbers, strings, words
and signs are written one behind the other, and whatever white space is put between them, the script
can be read, and its tokens are one for each lexeme, in order, and the end. -/
theorem tokenize_spaced (gap : Nat → Blanks) (lexemes : List Spelling) :
    ∃ tokens, tokenize (Text.ofChars (spaced gap lexemes))
        = .ok (tokens ++ [Token.endAt (placeAt (spaced gap lexemes) (spaced gap lexemes).length)]) ∧
      List.Forall₂ Spelling.Yields lexemes tokens := by
  obtain ⟨herror, tokens, htokens, hyields⟩ := scan_spaced gap lexemes Location.start
  refine ⟨tokens, ?_, hyields⟩
  rw [tokenize_eq_ok_iff, Text.chars_ofChars, placeAt_length]
  exact ⟨herror, htokens⟩

end LetScript
