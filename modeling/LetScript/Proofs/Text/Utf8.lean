import LetScript.Text.Utf8
import Mathlib.Tactic.Common

/-!
# Decoding undoes encoding

A character is read at the beginning of some bytes exactly if the bytes begin with its UTF-8 form
(`charAt?_eq_some_iff`).  So the pieces of a text tell it completely, a list of characters can be
written and read back, and a text can be cut before any of its characters without a change to what
is read on either side.
-/

namespace LetScript

namespace Text

/-! ### Bytes as numbers -/

lemma isContinuation_iff {b : UInt8} :
    isContinuation b = true ↔ 0x80 ≤ b.toNat ∧ b.toNat ≤ 0xBF := by
  simp only [isContinuation, Bool.and_eq_true, decide_eq_true_eq, UInt8.le_iff_toNat_le]
  exact Iff.rfl

lemma followsFirst_iff {first second : UInt8} : followsFirst first second = true ↔
    0x80 ≤ second.toNat ∧ second.toNat ≤ 0xBF ∧
      (first.toNat = 0xE0 → 0xA0 ≤ second.toNat) ∧ (first.toNat = 0xED → second.toNat ≤ 0x9F) ∧
      (first.toNat = 0xF0 → 0x90 ≤ second.toNat) ∧ (first.toNat = 0xF4 → second.toNat ≤ 0x8F) := by
  simp only [followsFirst, secondBounds, ← UInt8.toNat_inj, Bool.and_eq_true, decide_eq_true_eq,
    UInt8.le_iff_toNat_le]
  split_ifs with h₁ h₂ h₃ h₄ <;> simp only [UInt8.reduceToNat] at * <;> omega

lemma toNat_val_ofNat {n : Nat} (h : n.isValidChar) : (Char.ofNat n).val.toNat = n := by
  rw [Char.ofNat, dif_pos h]
  rfl

lemma toNat_ofNat {n : Nat} (h : n < 256) : (UInt8.ofNat n).toNat = n :=
  UInt8.toNat_ofNat_of_lt' h

lemma ofNat_inj {m n : Nat} (hm : m < 256) (hn : n < 256) :
    UInt8.ofNat m = UInt8.ofNat n ↔ m = n := by
  rw [← UInt8.toNat_inj, toNat_ofNat hm, toNat_ofNat hn]

lemma payload_add {b : UInt8} (h : 0x80 ≤ b.toNat) : payload b + 0x80 = b.toNat :=
  Nat.sub_add_cancel h

lemma ofNat_eq {n : Nat} {b : UInt8} (h : b.toNat = n) : UInt8.ofNat n = b := by
  rw [← h, UInt8.ofNat_toNat]

/-! ### Writing and reading a code point, by the length of its UTF-8 form -/

section Lengths

variable {n : Nat} {a b c d : UInt8}

lemma utf8EncodeChar_one (hn : n ≤ 0x7F) (ha : a.toNat = n) :
    String.utf8EncodeChar (Char.ofNat n) = [a] := by
  have hvalid : n.isValidChar := .inl (by omega)
  rw [String.utf8EncodeChar, toNat_val_ofNat hvalid, if_pos hn, ofNat_eq ha]

lemma utf8EncodeChar_two (hlow : 0x7F < n) (hhigh : n ≤ 0x7FF) (ha : a.toNat = n / 64 + 192)
    (hb : b.toNat = n % 64 + 128) : String.utf8EncodeChar (Char.ofNat n) = [a, b] := by
  have hvalid : n.isValidChar := .inl (by omega)
  have hfirst : n / 64 % 32 = n / 64 := by omega
  rw [String.utf8EncodeChar, toNat_val_ofNat hvalid, if_neg (by omega), if_pos hhigh, hfirst,
    ofNat_eq ha, ofNat_eq hb]

lemma utf8EncodeChar_three (hvalid : n.isValidChar) (hlow : 0x7FF < n) (hhigh : n ≤ 0xFFFF)
    (ha : a.toNat = n / 4096 + 224) (hb : b.toNat = n / 64 % 64 + 128)
    (hc : c.toNat = n % 64 + 128) : String.utf8EncodeChar (Char.ofNat n) = [a, b, c] := by
  have hfirst : n / 4096 % 16 = n / 4096 := by omega
  rw [String.utf8EncodeChar, toNat_val_ofNat hvalid, if_neg (by omega), if_neg (by omega),
    if_pos hhigh, hfirst, ofNat_eq ha, ofNat_eq hb, ofNat_eq hc]

lemma utf8EncodeChar_four (hlow : 0xFFFF < n) (hhigh : n < 0x110000)
    (ha : a.toNat = n / 262144 + 240) (hb : b.toNat = n / 4096 % 64 + 128)
    (hc : c.toNat = n / 64 % 64 + 128) (hd : d.toNat = n % 64 + 128) :
    String.utf8EncodeChar (Char.ofNat n) = [a, b, c, d] := by
  have hvalid : n.isValidChar := .inr ⟨by omega, hhigh⟩
  have hfirst : n / 262144 % 8 = n / 262144 := by omega
  rw [String.utf8EncodeChar, toNat_val_ofNat hvalid, if_neg (by omega), if_neg (by omega),
    if_neg (by omega), hfirst, ofNat_eq ha, ofNat_eq hb, ofNat_eq hc, ofNat_eq hd]

/-- One byte below `0x80` is read as the character with its number. -/
lemma charAt?_one (hn : n ≤ 0x7F) (ha : a.toNat = n) (rest : List UInt8) :
    charAt? a rest = some (Char.ofNat n, 0) := by
  simp only [charAt?, UInt8.lt_iff_toNat_lt, UInt8.reduceToNat]
  rw [if_pos (by omega), ha]

lemma charAt?_two (hlow : 0x7F < n) (hhigh : n ≤ 0x7FF) (ha : a.toNat = n / 64 + 192)
    (hb : b.toNat = n % 64 + 128) (rest : List UInt8) :
    charAt? a (b :: rest) = some (Char.ofNat n, 1) := by
  have hsecond : isContinuation b = true := isContinuation_iff.2 ⟨by omega, by omega⟩
  have hb' := payload_add (isContinuation_iff.1 hsecond).1
  have hcode : (a.toNat - 0xC0) * 0x40 + payload b = n := by omega
  simp only [charAt?, UInt8.lt_iff_toNat_lt, UInt8.reduceToNat]
  rw [if_neg (by omega), if_neg (by omega), if_pos (by omega), if_pos hsecond, hcode]

lemma charAt?_three (hvalid : n.isValidChar) (hlow : 0x7FF < n) (hhigh : n ≤ 0xFFFF)
    (ha : a.toNat = n / 4096 + 224) (hb : b.toNat = n / 64 % 64 + 128)
    (hc : c.toNat = n % 64 + 128) (rest : List UInt8) :
    charAt? a (b :: c :: rest) = some (Char.ofNat n, 2) := by
  unfold Nat.isValidChar at hvalid
  have hsecond : followsFirst a b = true := by
    rw [followsFirst_iff]
    omega
  have hthird : isContinuation c = true := isContinuation_iff.2 ⟨by omega, by omega⟩
  have hb' := payload_add (followsFirst_iff.1 hsecond).1
  have hc' := payload_add (isContinuation_iff.1 hthird).1
  have hcode : ((a.toNat - 0xE0) * 0x40 + payload b) * 0x40 + payload c = n := by omega
  simp only [charAt?, UInt8.lt_iff_toNat_lt, UInt8.reduceToNat, hsecond, hthird]
  rw [if_neg (by omega), if_neg (by omega), if_neg (by omega), if_pos (by omega), hcode]
  rfl

lemma charAt?_four (hlow : 0xFFFF < n) (hhigh : n < 0x110000) (ha : a.toNat = n / 262144 + 240)
    (hb : b.toNat = n / 4096 % 64 + 128) (hc : c.toNat = n / 64 % 64 + 128)
    (hd : d.toNat = n % 64 + 128) (rest : List UInt8) :
    charAt? a (b :: c :: d :: rest) = some (Char.ofNat n, 3) := by
  have hsecond : followsFirst a b = true := by
    rw [followsFirst_iff]
    omega
  have hthird : isContinuation c = true := isContinuation_iff.2 ⟨by omega, by omega⟩
  have hfourth : isContinuation d = true := isContinuation_iff.2 ⟨by omega, by omega⟩
  have hb' := payload_add (followsFirst_iff.1 hsecond).1
  have hc' := payload_add (isContinuation_iff.1 hthird).1
  have hd' := payload_add (isContinuation_iff.1 hfourth).1
  have hcode :
      (((a.toNat - 0xF0) * 0x40 + payload b) * 0x40 + payload c) * 0x40 + payload d = n := by
    omega
  simp only [charAt?, UInt8.lt_iff_toNat_lt, UInt8.reduceToNat, hsecond, hthird, hfourth]
  rw [if_neg (by omega), if_neg (by omega), if_neg (by omega), if_neg (by omega), if_pos (by omega),
    hcode]
  rfl

end Lengths

/-! ### Characters at the beginning of some bytes -/

/-- What is read as a character is its UTF-8 form. -/
lemma utf8EncodeChar_of_charAt? {first : UInt8} {rest : List UInt8} {c : Char} {more : Nat}
    (h : charAt? first rest = some (c, more)) :
    ∃ tail rest', rest = tail ++ rest' ∧ tail.length = more ∧
      String.utf8EncodeChar c = first :: tail := by
  simp only [charAt?, UInt8.lt_iff_toNat_lt, UInt8.reduceToNat] at h
  split_ifs at h with h₁ h₂ h₃ h₄ h₅
  · cases h
    exact ⟨[], rest, rfl, rfl, utf8EncodeChar_one (by omega) rfl⟩
  · split at h
    · next b rest' =>
      split_ifs at h with hb
      obtain ⟨rfl, rfl⟩ := Prod.mk.inj (Option.some.inj h)
      obtain ⟨hb₁, hb₂⟩ := isContinuation_iff.1 hb
      have hb' := payload_add hb₁
      exact ⟨[b], rest', rfl, rfl,
        utf8EncodeChar_two (by omega) (by omega) (by omega) (by omega)⟩
    · cases h
  · split at h
    · next b d rest' =>
      split_ifs at h with hbd
      obtain ⟨rfl, rfl⟩ := Prod.mk.inj (Option.some.inj h)
      obtain ⟨hb, hd⟩ := Bool.and_eq_true_iff.1 hbd
      obtain ⟨hb₁, hb₂, hE0, hED, -, -⟩ := followsFirst_iff.1 hb
      obtain ⟨hd₁, hd₂⟩ := isContinuation_iff.1 hd
      have hb' := payload_add hb₁
      have hd' := payload_add hd₁
      refine ⟨[b, d], rest', rfl, rfl,
        utf8EncodeChar_three ?_ (by omega) (by omega) (by omega) (by omega) (by omega)⟩
      unfold Nat.isValidChar
      omega
    · cases h
  · split at h
    · next b d e rest' =>
      split_ifs at h with hbde
      obtain ⟨rfl, rfl⟩ := Prod.mk.inj (Option.some.inj h)
      obtain ⟨hbd, he⟩ := Bool.and_eq_true_iff.1 hbde
      obtain ⟨hb, hd⟩ := Bool.and_eq_true_iff.1 hbd
      obtain ⟨hb₁, hb₂, -, -, hF0, hF4⟩ := followsFirst_iff.1 hb
      obtain ⟨hd₁, hd₂⟩ := isContinuation_iff.1 hd
      obtain ⟨he₁, he₂⟩ := isContinuation_iff.1 he
      have hb' := payload_add hb₁
      have hd' := payload_add hd₁
      have he' := payload_add he₁
      exact ⟨[b, d, e], rest', rfl, rfl, utf8EncodeChar_four (by omega) (by omega) (by omega)
        (by omega) (by omega) (by omega)⟩
    · cases h

/-- The UTF-8 form of a character is read as the character, whatever is behind it. -/
lemma charAt?_of_utf8EncodeChar {first : UInt8} {tail : List UInt8} {c : Char}
    (h : String.utf8EncodeChar c = first :: tail) (rest : List UInt8) :
    charAt? first (tail ++ rest) = some (c, tail.length) := by
  have hvalid : c.val.toNat.isValidChar := c.valid
  have hc : Char.ofNat c.val.toNat = c := Char.ofNat_toNat c
  rw [← hc]
  rw [String.utf8EncodeChar] at h
  generalize c.val.toNat = n at h hvalid
  have hbound : n < 0x110000 := by
    unfold Nat.isValidChar at hvalid
    omega
  split_ifs at h with h₁ h₂ h₃
  · obtain ⟨rfl, rfl⟩ := List.cons.inj h
    exact charAt?_one h₁ (toNat_ofNat (by omega)) rest
  · obtain ⟨rfl, rfl⟩ := List.cons.inj h
    have hfirst : n / 64 % 32 = n / 64 := by omega
    refine charAt?_two (by omega) h₂ ?_ (toNat_ofNat (by omega)) rest
    rw [hfirst, toNat_ofNat (by omega)]
  · obtain ⟨rfl, rfl⟩ := List.cons.inj h
    have hfirst : n / 4096 % 16 = n / 4096 := by omega
    refine charAt?_three hvalid (by omega) h₃ ?_ (toNat_ofNat (by omega)) (toNat_ofNat (by omega))
      rest
    rw [hfirst, toNat_ofNat (by omega)]
  · obtain ⟨rfl, rfl⟩ := List.cons.inj h
    have hfirst : n / 262144 % 8 = n / 262144 := by omega
    refine charAt?_four (by omega) hbound ?_ (toNat_ofNat (by omega)) (toNat_ofNat (by omega))
      (toNat_ofNat (by omega)) rest
    rw [hfirst, toNat_ofNat (by omega)]

/-- **A character is read exactly where its UTF-8 form stands.** -/
theorem charAt?_eq_some_iff {first : UInt8} {rest : List UInt8} {c : Char} {more : Nat} :
    charAt? first rest = some (c, more) ↔
      ∃ tail rest', rest = tail ++ rest' ∧ tail.length = more ∧
        String.utf8EncodeChar c = first :: tail := by
  constructor
  · exact utf8EncodeChar_of_charAt?
  · rintro ⟨tail, rest', rfl, rfl, h⟩
    exact charAt?_of_utf8EncodeChar h rest'

/-- A stray byte is still stray when something behind it is cut off. -/
lemma charAt?_eq_none_of_append {b : UInt8} {bytes more : List UInt8}
    (h : charAt? b (bytes ++ more) = none) : charAt? b bytes = none := by
  by_contra hne
  obtain ⟨⟨c, n⟩, hc⟩ := Option.ne_none_iff_exists'.1 hne
  obtain ⟨tail, rest, rfl, -, hform⟩ := charAt?_eq_some_iff.1 hc
  rw [List.append_assoc, charAt?_of_utf8EncodeChar hform] at h
  cases h

/-! ### Pieces -/

lemma piecesFrom_eq_drop (skip : Nat) (bytes : List UInt8) :
    piecesFrom skip bytes = piecesFrom 0 (bytes.drop skip) := by
  induction skip generalizing bytes with
  | zero => rfl
  | succ skip ih =>
    cases bytes with
    | nil => rfl
    | cons b bytes => exact ih bytes

lemma piecesFrom_char (c : Char) (rest : List UInt8) :
    piecesFrom 0 (String.utf8EncodeChar c ++ rest) = .char c :: piecesFrom 0 rest := by
  rcases hform : String.utf8EncodeChar c with _ | ⟨first, tail⟩
  · exact absurd hform String.utf8EncodeChar_ne_nil
  · rw [List.cons_append, piecesFrom, charAt?_of_utf8EncodeChar hform]
    show Piece.char c :: piecesFrom tail.length (tail ++ rest) = _
    rw [piecesFrom_eq_drop, List.drop_left]

lemma piecesFrom_stray {b : UInt8} {rest : List UInt8} (h : charAt? b rest = none) :
    piecesFrom 0 (b :: rest) = .stray b :: piecesFrom 0 rest := by
  rw [piecesFrom, h]

/-- What holds of no bytes, and goes on to hold with one more piece in front, holds of all bytes. -/
theorem piece_induction {motive : List UInt8 → Prop} (nil : motive [])
    (char : ∀ c rest, motive rest → motive (String.utf8EncodeChar c ++ rest))
    (stray : ∀ b rest, charAt? b rest = none → motive rest → motive (b :: rest))
    (bytes : List UInt8) : motive bytes := by
  induction hlen : bytes.length using Nat.strongRecOn generalizing bytes with
  | ind n ih =>
    cases bytes with
    | nil => exact nil
    | cons b rest =>
      rcases hb : charAt? b rest with _ | ⟨c, more⟩
      · exact stray b rest hb (ih rest.length (by simp [← hlen]) rest rfl)
      · obtain ⟨tail, rest', rfl, -, hform⟩ := charAt?_eq_some_iff.1 hb
        rw [← List.cons_append, ← hform]
        refine char c rest' (ih rest'.length ?_ rest' rfl)
        simp only [List.length_cons, List.length_append] at hlen
        omega

lemma flatMap_bytes_piecesFrom (bytes : List UInt8) :
    (piecesFrom 0 bytes).flatMap Piece.bytes = bytes := by
  induction bytes using piece_induction with
  | nil => rfl
  | char c rest ih => rw [piecesFrom_char, List.flatMap_cons, ih, Piece.bytes]
  | stray b rest hb ih =>
    rw [piecesFrom_stray hb, List.flatMap_cons, ih, Piece.bytes, List.singleton_append]

/-- Some pieces from the beginning of a text are the pieces of their bytes: what comes behind them
has no part in how they are read. -/
lemma piecesFrom_take (bytes : List UInt8) (n : Nat) :
    piecesFrom 0 (((piecesFrom 0 bytes).take n).flatMap Piece.bytes)
      = (piecesFrom 0 bytes).take n := by
  induction bytes using piece_induction generalizing n with
  | nil => simp [piecesFrom]
  | char c rest ih =>
    cases n with
    | zero => simp [piecesFrom]
    | succ n =>
      rw [piecesFrom_char, List.take_succ_cons, List.flatMap_cons, Piece.bytes, piecesFrom_char, ih]
  | stray b rest hb ih =>
    cases n with
    | zero => simp [piecesFrom]
    | succ n =>
      have hsplit : ((piecesFrom 0 rest).take n).flatMap Piece.bytes
          ++ ((piecesFrom 0 rest).drop n).flatMap Piece.bytes = rest := by
        rw [← List.flatMap_append, List.take_append_drop, flatMap_bytes_piecesFrom]
      rw [piecesFrom_stray hb, List.take_succ_cons, List.flatMap_cons, Piece.bytes,
        List.singleton_append, piecesFrom_stray, ih]
      rw [← hsplit] at hb
      exact charAt?_eq_none_of_append hb

lemma piecesFrom_drop (bytes : List UInt8) (n : Nat) :
    piecesFrom 0 (((piecesFrom 0 bytes).drop n).flatMap Piece.bytes)
      = (piecesFrom 0 bytes).drop n := by
  induction bytes using piece_induction generalizing n with
  | nil => simp [piecesFrom]
  | char c rest ih =>
    cases n with
    | zero => rw [List.drop_zero, flatMap_bytes_piecesFrom]
    | succ n => rw [piecesFrom_char, List.drop_succ_cons, ih]
  | stray b rest hb ih =>
    cases n with
    | zero => rw [List.drop_zero, flatMap_bytes_piecesFrom]
    | succ n => rw [piecesFrom_stray hb, List.drop_succ_cons, ih]

/-! ### Characters -/

/-- **Characters can be written and read back.** -/
@[simp] theorem chars_ofChars (cs : List Char) : (ofChars cs).chars = cs := by
  induction cs with
  | nil => rfl
  | cons c cs ih =>
    have hcons : (ofChars (c :: cs)).chars = c :: (ofChars cs).chars := by
      simp only [chars, pieces, ofChars, List.flatMap_cons, piecesFrom_char, List.map_cons]
      rfl
    rw [hcons, ih]

/-- **A text can be cut before any of its characters.** -/
theorem exists_append_chars (t : Text) (n : Nat) :
    ∃ before after, t = before ++ after ∧ before.chars = t.chars.take n ∧
      after.chars = t.chars.drop n := by
  obtain ⟨bytes⟩ := t
  refine ⟨ofPieces ((piecesFrom 0 bytes).take n), ofPieces ((piecesFrom 0 bytes).drop n),
    ?_, ?_, ?_⟩
  · refine congrArg Text.mk ?_
    simp only [ofPieces]
    rw [← List.flatMap_append, List.take_append_drop, flatMap_bytes_piecesFrom]
  · simp only [chars, pieces, ofPieces, piecesFrom_take, List.map_take]
  · simp only [chars, pieces, ofPieces, piecesFrom_drop, List.map_drop]

/-! ### ASCII -/

section Ascii

variable {n : Nat}

/-- A byte below `0x80` belongs only to the character with its number. -/
lemma ofNat_mem_utf8EncodeChar (hn : n < 0x80) {c : Char} :
    UInt8.ofNat n ∈ String.utf8EncodeChar c ↔ Char.ofNat n = c := by
  constructor
  · intro h
    have hvalid : c.val.toNat < 0xD800 ∨ 0xDFFF < c.val.toNat ∧ c.val.toNat < 0x110000 := c.valid
    have hcode : n = c.val.toNat := by
      rw [String.utf8EncodeChar] at h
      -- all bytes of a longer form are at least 128
      split_ifs at h <;>
        simp (disch := omega) only [List.mem_cons, List.not_mem_nil, ofNat_inj, or_false] at h <;>
        omega
    rw [hcode]
    exact Char.ofNat_toNat c
  · rintro rfl
    rw [utf8EncodeChar_one (by omega) (toNat_ofNat (by omega))]
    exact List.mem_singleton_self _

/-- **A text has an ASCII character exactly if it has its byte.** -/
theorem ofNat_mem_bytes_iff (hn : n < 0x80) {t : Text} :
    UInt8.ofNat n ∈ t.bytes ↔ Char.ofNat n ∈ t.chars := by
  obtain ⟨bytes⟩ := t
  simp only [chars, pieces]
  induction bytes using piece_induction with
  | nil => simp [piecesFrom]
  | char c rest ih =>
    rw [piecesFrom_char, List.mem_append, ofNat_mem_utf8EncodeChar hn, ih, List.map_cons,
      List.mem_cons, Piece.toChar]
  | stray b rest hb ih =>
    have hbyte : UInt8.ofNat n ≠ b := by
      rintro rfl
      rw [charAt?_one (by omega) (toNat_ofNat (by omega))] at hb
      cases hb
    have hchar : Char.ofNat n ≠ Piece.toChar (.stray b) := by
      intro h
      have hcode := congrArg (fun c => c.val.toNat) h
      simp only [toNat_val_ofNat (.inl (by omega) : n.isValidChar)] at hcode
      have hstray : (Piece.toChar (.stray b)).val.toNat = 0xFFFD := rfl
      omega
    rw [piecesFrom_stray hb, List.mem_cons, ih, List.map_cons, List.mem_cons]
    simp [hbyte, hchar]

end Ascii

end Text

end LetScript
