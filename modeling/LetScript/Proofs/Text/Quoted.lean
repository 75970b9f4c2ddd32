import LetScript.Text.Quoted
import LetScript.Proofs.Text.Utf8
import Mathlib.Algebra.Group.Nat.Defs

/-!
# Reading quoted texts

The quoted form of a text tells which text it is, down to the stray bytes, and stands on one line.
A reader that takes one piece at a time off the characters between the quotes, `unquotePiece`,
always knows where the piece ends: behind a backslash, the next character says how many
hexadecimal digits there are to come, if any.
-/

namespace LetScript

namespace Text

/-! ### Hexadecimal digits -/

/-- What a hexadecimal digit in lower case stands for. -/
def hexDigitValue (c : Char) : Nat := if c.toNat < 0x3A then c.toNat - 0x30 else c.toNat - 0x57

/-- The number that hexadecimal digits write. -/
def hexNumber (digits : List Char) : Nat := digits.foldl (fun n c => n * 16 + hexDigitValue c) 0

@[simp] lemma length_hexDigits (width n : Nat) : (hexDigits width n).length = width := by
  induction width generalizing n with
  | zero => rfl
  | succ width ih => simp [hexDigits, ih]

lemma hexDigitValue_digitChar : ∀ d < 16, hexDigitValue (Nat.digitChar d) = d := by decide

/-- A number that fits into so many digits is read back from them. -/
lemma hexNumber_hexDigits {width n : Nat} (h : n < 16 ^ width) :
    hexNumber (hexDigits width n) = n := by
  induction width generalizing n with
  | zero =>
    have hzero : n = 0 := by simpa using h
    exact hzero.symm
  | succ width ih =>
    have hfront : hexNumber (hexDigits width (n / 16)) = n / 16 :=
      ih (Nat.div_lt_of_lt_mul (by rwa [Nat.mul_comm, ← Nat.pow_succ]))
    have hlast : hexDigitValue (Nat.digitChar (n % 16)) = n % 16 :=
      hexDigitValue_digitChar _ (Nat.mod_lt _ (by decide))
    rw [hexNumber] at hfront ⊢
    rw [hexDigits, List.foldl_append, hfront]
    show n / 16 * 16 + hexDigitValue (Nat.digitChar (n % 16)) = n
    omega

/-! ### One piece -/

/-- The character that a backslash and a letter, a quote or a backslash stand for. -/
def unescapeLetter (l : Char) : Char :=
  match l with
  | 'a' => '\x07'
  | 'b' => '\x08'
  | 't' => '\x09'
  | 'n' => '\x0A'
  | 'v' => '\x0B'
  | 'f' => '\x0C'
  | 'r' => '\x0D'
  | c => c

/-- The piece with a number of two digits: a character of ASCII or a stray byte. -/
def pieceOfByte (n : Nat) : Piece :=
  if n < 0x80 then .char (Char.ofNat n) else .stray (UInt8.ofNat n)

/-- The piece that is written behind a backslash, and the characters behind the piece. -/
def unescape : List Char → Option (Piece × List Char)
  | [] => none
  | 'x' :: rest => some (pieceOfByte (hexNumber (rest.take 2)), rest.drop 2)
  | 'u' :: rest => some (.char (Char.ofNat (hexNumber (rest.take 4))), rest.drop 4)
  | 'U' :: rest => some (.char (Char.ofNat (hexNumber (rest.take 8))), rest.drop 8)
  | l :: rest => some (.char (unescapeLetter l), rest)

/-- The first piece between quotes, and the characters behind it. -/
def unquotePiece : List Char → Option (Piece × List Char)
  | [] => none
  | c :: rest => if c = '\\' then unescape rest else some (.char c, rest)

/-- Digits behind the letter that announces them are read back, whatever follows. -/
lemma hexNumber_take {width n : Nat} (h : n < 16 ^ width) (rest : List Char) :
    hexNumber ((hexDigits width n ++ rest).take width) = n := by
  rw [List.take_left' (length_hexDigits width n), hexNumber_hexDigits h]

lemma drop_hexDigits (width n : Nat) (rest : List Char) :
    (hexDigits width n ++ rest).drop width = rest :=
  List.drop_left' (length_hexDigits width n)

lemma unescape_of_escapeLetter? {c l : Char} (h : escapeLetter? c = some l) (rest : List Char) :
    unescape (l :: rest) = some (.char c, rest) := by
  have hcode : Char.ofNat c.toNat = c := Char.ofNat_toNat c
  rw [escapeLetter?] at h
  split at h
  case h_8 => cases h
  all_goals
    next hn =>
      rw [← hcode, hn, ← Option.some.inj h]
      rfl

lemma unquotePiece_quoteChar (c : Char) (rest : List Char) :
    unquotePiece (quoteChar c ++ rest) = some (.char c, rest) := by
  rw [quoteChar]
  split
  · next hescaped =>
    have hc : c = '"' ∨ c = '\\' := by simpa using hescaped
    rcases hc with rfl | rfl <;> rfl
  · next hescaped =>
    split
    · have hne : c ≠ '\\' := by
        rintro rfl
        exact hescaped (by decide)
      exact if_neg hne
    · split
      · next l hl => exact unescape_of_escapeLetter? hl rest
      · -- what is left is written with as many digits as its number needs
        have hvalid : c.toNat < 0x110000 := by
          have := c.valid
          simp only [UInt32.isValidChar, Nat.isValidChar] at this
          show c.val.toNat < _
          omega
        have hcode : Char.ofNat c.toNat = c := Char.ofNat_toNat c
        split_ifs with hascii hshort
        · show some (pieceOfByte (hexNumber ((hexDigits 2 c.toNat ++ rest).take 2)),
            (hexDigits 2 c.toNat ++ rest).drop 2) = _
          rw [hexNumber_take (by omega), drop_hexDigits, pieceOfByte, if_pos hascii, hcode]
        · show some (Piece.char (Char.ofNat (hexNumber ((hexDigits 4 c.toNat ++ rest).take 4))),
            (hexDigits 4 c.toNat ++ rest).drop 4) = _
          rw [hexNumber_take (by omega), drop_hexDigits, hcode]
        · show some (Piece.char (Char.ofNat (hexNumber ((hexDigits 8 c.toNat ++ rest).take 8))),
            (hexDigits 8 c.toNat ++ rest).drop 8) = _
          rw [hexNumber_take (by omega), drop_hexDigits, hcode]

lemma unquotePiece_quoteStray {b : UInt8} (hb : 0x80 ≤ b.toNat) (rest : List Char) :
    unquotePiece (quotePiece (.stray b) ++ rest) = some (.stray b, rest) := by
  have hsmall : b.toNat < 16 ^ 2 := b.toNat_lt
  show some (pieceOfByte (hexNumber ((hexDigits 2 b.toNat ++ rest).take 2)),
    (hexDigits 2 b.toNat ++ rest).drop 2) = _
  rw [hexNumber_take hsmall, drop_hexDigits, pieceOfByte, if_neg (by omega), UInt8.ofNat_toNat]

/-- No byte of ASCII is stray. -/
lemma le_of_stray_mem_pieces {t : Text} {b : UInt8} (h : .stray b ∈ t.pieces) : 0x80 ≤ b.toNat := by
  obtain ⟨bytes⟩ := t
  rw [pieces] at h
  induction bytes using piece_induction with
  | nil => cases h
  | char c rest ih =>
    rw [piecesFrom_char] at h
    exact ih (by simpa using h)
  | stray b' rest hb ih =>
    rw [piecesFrom_stray hb] at h
    rcases List.mem_cons.1 h with heq | hrest
    · obtain rfl := Piece.stray.inj heq
      by_contra hlow
      rw [charAt?_one (by omega) rfl] at hb
      cases hb
    · exact ih hrest

/-- A piece of a text is read back, whatever follows. -/
lemma unquotePiece_quotePiece {t : Text} {p : Piece} (h : p ∈ t.pieces) (rest : List Char) :
    unquotePiece (quotePiece p ++ rest) = some (p, rest) := by
  cases p with
  | char c => exact unquotePiece_quoteChar c rest
  | stray b => exact unquotePiece_quoteStray (le_of_stray_mem_pieces h) rest

/-! ### Whole texts -/

/-- Pieces that can be read back one by one can be read back together. -/
lemma flatMap_quotePiece_inj {ps qs : List Piece}
    (hps : ∀ p ∈ ps, ∀ rest, unquotePiece (quotePiece p ++ rest) = some (p, rest))
    (hqs : ∀ q ∈ qs, ∀ rest, unquotePiece (quotePiece q ++ rest) = some (q, rest))
    (h : ps.flatMap quotePiece = qs.flatMap quotePiece) : ps = qs := by
  induction ps generalizing qs with
  | nil =>
    cases qs with
    | nil => rfl
    | cons q qs =>
      have hread := hqs q List.mem_cons_self (qs.flatMap quotePiece)
      rw [← List.flatMap_cons, ← h] at hread
      cases hread
  | cons p ps ih =>
    have hread := hps p List.mem_cons_self (ps.flatMap quotePiece)
    rw [← List.flatMap_cons, h] at hread
    cases qs with
    | nil => cases hread
    | cons q qs =>
      rw [List.flatMap_cons, hqs q List.mem_cons_self] at hread
      obtain ⟨rfl, hrest⟩ := Prod.mk.inj (Option.some.inj hread)
      rw [ih (fun p hp => hps p (List.mem_cons_of_mem _ hp))
        (fun q hq => hqs q (List.mem_cons_of_mem _ hq)) hrest.symm]

/-- **A quoted form is that of one text only.** -/
theorem quoted_injective : Function.Injective quoted := by
  intro t u h
  have hchars : t.quotedChars = u.quotedChars := by
    simpa [quoted] using congrArg chars h
  have hpieces : t.pieces = u.pieces := by
    refine flatMap_quotePiece_inj (fun _ hp => unquotePiece_quotePiece hp)
      (fun _ hq => unquotePiece_quotePiece hq) ?_
    simpa [quotedChars] using hchars
  have hbytes : t.bytes = u.bytes := by
    rw [← flatMap_bytes_piecesFrom t.bytes, ← flatMap_bytes_piecesFrom u.bytes]
    exact congrArg (List.flatMap Piece.bytes) hpieces
  obtain ⟨t⟩ := t
  obtain ⟨u⟩ := u
  exact congrArg mk hbytes

/-! ### One line -/

lemma le_toNat_of_isPrintable {c : Char} (h : isPrintable c = true) : 0x20 ≤ c.toNat := by
  rw [isPrintable] at h
  split at h
  · have hrange : 0x20 ≤ c.toNat ∧ c.toNat < 0x7F := by simpa using h
    exact hrange.1
  · omega

lemma le_toNat_of_escapeLetter? {c l : Char} (h : escapeLetter? c = some l) : 0x20 ≤ l.toNat := by
  rw [escapeLetter?] at h
  split at h
  case h_8 => cases h
  all_goals
    rw [← Option.some.inj h]
    decide

lemma le_toNat_of_mem_hexDigits {width n : Nat} {c : Char} (h : c ∈ hexDigits width n) :
    0x20 ≤ c.toNat := by
  induction width generalizing n with
  | zero => cases h
  | succ width ih =>
    rcases List.mem_append.1 h with hfront | hlast
    · exact ih hfront
    · have hdigit : ∀ d < 16, 0x20 ≤ (Nat.digitChar d).toNat := by decide
      rw [List.mem_singleton.1 hlast]
      exact hdigit _ (Nat.mod_lt _ (by decide))

/-- No control character stands between quotes. -/
lemma le_toNat_of_mem_quotePiece {p : Piece} {c : Char} (h : c ∈ quotePiece p) :
    0x20 ≤ c.toNat := by
  -- a backslash and a letter, and behind them only what is no control character
  have hescape : ∀ {l : Char} {cs : List Char}, 0x20 ≤ l.toNat → (∀ d ∈ cs, 0x20 ≤ d.toNat) →
      c ∈ '\\' :: l :: cs → 0x20 ≤ c.toNat := by
    intro l cs hl hcs hc
    rcases List.mem_cons.1 hc with rfl | hc
    · decide
    · rcases List.mem_cons.1 hc with rfl | hc
      · exact hl
      · exact hcs c hc
  cases p with
  | stray b => exact hescape (by decide) (fun _ hd => le_toNat_of_mem_hexDigits hd) h
  | char e =>
    rw [quotePiece, quoteChar] at h
    split at h
    · next hescaped =>
      have he : e = '"' ∨ e = '\\' := by simpa using hescaped
      exact hescape (by rcases he with rfl | rfl <;> decide) (by simp) h
    · split at h
      · next hprintable =>
        rw [List.mem_singleton.1 h]
        exact le_toNat_of_isPrintable hprintable
      · split at h
        · next l hl => exact hescape (le_toNat_of_escapeLetter? hl) (by simp) h
        · split_ifs at h <;>
            exact hescape (by decide) (fun _ hd => le_toNat_of_mem_hexDigits hd) h

/-- **A quoted form stands on one line.** -/
theorem newline_notMem_quoted (t : Text) : 10 ∉ t.quoted.bytes := by
  intro h
  have hmem : '\n' ∈ t.quotedChars := by
    simpa [quoted] using (ofNat_mem_bytes_iff (n := 10) (by decide)).1 h
  have hpiece : ∃ p ∈ t.pieces, '\n' ∈ quotePiece p := by simpa [quotedChars] using hmem
  obtain ⟨p, -, hp⟩ := hpiece
  exact absurd (le_toNat_of_mem_quotePiece hp) (by decide)

/-- A quote, a newline and a stray byte between two letters. -/
example : quoted ⟨[0x61, 0x22, 0x0A, 0xFF, 0x62]⟩ = "\"a\\\"\\n\\xffb\"" := by decide +kernel

end Text

end LetScript
