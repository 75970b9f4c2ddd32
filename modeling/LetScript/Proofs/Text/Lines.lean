import LetScript.Proofs.Text.Utf8

/-!
# Lines of bytes and lines of characters

A text is divided into lines by its newline *bytes*, while its characters are read by decoding it
from the left.  The two agree: a newline byte continues no sequence of bytes, so decoding starts
afresh behind it, and no other byte or sequence is read as a newline.  This holds for every text,
whether it is well-formed or not.

All of it follows from one equation, `chars_append_newline`.  The main result,
`exists_isLine_of_lines`, finds each line of a text among the characters of the text.
-/

namespace LetScript

namespace Text

/-! ### Decoding around a newline -/

lemma followsFirst_newline (first : UInt8) : followsFirst first 10 = false := by
  have hlow : (10 : UInt8) < (secondBounds first).1 := by
    unfold secondBounds
    split_ifs <;> decide
  simp [followsFirst, UInt8.not_le.2 hlow]

/-- No sequence of bytes goes on across a newline. -/
lemma charAt?_append_newline (first : UInt8) (before after : List UInt8) :
    charAt? first (before ++ 10 :: after) = charAt? first before := by
  have hcontinuation : isContinuation 10 = false := by decide
  unfold charAt?
  rcases before with _ | ⟨x, _ | ⟨y, _ | ⟨z, before⟩⟩⟩ <;>
    rcases after with _ | ⟨u, _ | ⟨v, after⟩⟩ <;>
    simp [hcontinuation, followsFirst_newline]

/-! ### The characters of a text with newlines -/

lemma piecesFrom_append_newline (before after : List UInt8) :
    piecesFrom 0 (before ++ 10 :: after)
      = piecesFrom 0 before ++ .char '\n' :: piecesFrom 0 after := by
  induction before using piece_induction with
  | nil => exact piecesFrom_char '\n' after
  | char c rest ih => rw [List.append_assoc, piecesFrom_char, ih, piecesFrom_char, List.cons_append]
  | stray b rest hb ih =>
    have hstray : charAt? b (rest ++ 10 :: after) = none := by rw [charAt?_append_newline, hb]
    rw [List.cons_append, piecesFrom_stray hstray, ih, piecesFrom_stray hb, List.cons_append]

/-- **Decoding starts afresh behind a newline.** -/
theorem chars_append_newline (before after : List UInt8) :
    chars ⟨before ++ 10 :: after⟩ = chars ⟨before⟩ ++ '\n' :: chars ⟨after⟩ := by
  simp only [chars, pieces, piecesFrom_append_newline, List.map_append, List.map_cons]
  rfl

lemma newline_notMem_chars {bytes : List UInt8} (h : 10 ∉ bytes) : '\n' ∉ chars ⟨bytes⟩ := by
  have hiff : 10 ∈ bytes ↔ '\n' ∈ chars ⟨bytes⟩ := ofNat_mem_bytes_iff (n := 10) (by decide)
  exact fun hmem => h (hiff.2 hmem)

/-- A text has as many newlines as characters as it has as bytes. -/
lemma count_newline_chars (bytes : List UInt8) :
    (chars ⟨bytes⟩).count '\n' = bytes.count 10 := by
  induction hcount : bytes.count 10 generalizing bytes with
  | zero => exact List.count_eq_zero.2 (newline_notMem_chars (List.count_eq_zero.1 hcount))
  | succ n ih =>
    have hmem : 10 ∈ bytes := List.count_pos_iff.1 (by omega)
    obtain ⟨before, after, rfl, hbefore⟩ := List.eq_append_cons_of_mem hmem
    have hafter : after.count 10 = n := by
      simpa [List.count_eq_zero.2 hbefore] using hcount
    have hnone : (chars ⟨before⟩).count '\n' = 0 :=
      List.count_eq_zero.2 (newline_notMem_chars hbefore)
    rw [chars_append_newline, List.count_append, List.count_cons_self, hnone, ih after hafter]
    omega

end Text

/-! ### Lines -/

/-- Between `before` and `after` stands the line number `k` of some items, counted from zero: a
stretch without a newline, from the start or a newline up to the next newline or the end. -/
structure IsLine {α : Type} [BEq α] (newline : α) (items : List α) (k : Nat)
    (before line after : List α) : Prop where
  split : items = before ++ (line ++ after)
  number : before.count newline = k
  begins : before = [] ∨ ∃ items', before = items' ++ [newline]
  newline_notMem : newline ∉ line
  ends : after = [] ∨ ∃ items', after = newline :: items'

namespace IsLine

variable {α : Type} [BEq α] [LawfulBEq α] {newline b : α} {items before line after : List α} {k : Nat}

/-- The first line of what is behind a newline is the second line. -/
lemma cons_newline (h : IsLine newline items k before line after) :
    IsLine newline (newline :: items) (k + 1) (newline :: before) line after where
  split := by rw [h.split, List.cons_append]
  number := by rw [List.count_cons_self, h.number]
  begins := by
    right
    rcases h.begins with rfl | ⟨items', rfl⟩
    · exact ⟨[], rfl⟩
    · exact ⟨newline :: items', rfl⟩
  newline_notMem := h.newline_notMem
  ends := h.ends

lemma before_eq_nil (h : IsLine newline items 0 before line after) : before = [] := by
  rcases h.begins with hnil | ⟨items', rfl⟩
  · exact hnil
  · have hnumber := h.number
    simp at hnumber

/-- An item other than a newline belongs to the first line. -/
lemma cons_first (h : IsLine newline items 0 before line after) (hb : b ≠ newline) :
    IsLine newline (b :: items) 0 [] (b :: line) after where
  split := by rw [h.split, h.before_eq_nil]; rfl
  number := rfl
  begins := .inl rfl
  newline_notMem := List.not_mem_cons_of_ne_of_not_mem hb.symm h.newline_notMem
  ends := h.ends

lemma cons_later (h : IsLine newline items (k + 1) before line after) (hb : b ≠ newline) :
    IsLine newline (b :: items) (k + 1) (b :: before) line after where
  split := by rw [h.split, List.cons_append]
  number := by rw [List.count_cons_of_ne hb, h.number]
  begins := by
    right
    rcases h.begins with rfl | ⟨items', rfl⟩
    · cases h.number
    · exact ⟨b :: items', rfl⟩
  newline_notMem := h.newline_notMem
  ends := h.ends

end IsLine

namespace Text

lemma splitLines_ne_nil (bytes : List UInt8) : splitLines bytes ≠ [] := by
  cases bytes with
  | nil => simp [splitLines]
  | cons b rest =>
    rw [splitLines]
    split
    · simp
    · split <;> simp

lemma exists_isLine_of_splitLines {bytes line : List UInt8} {k : Nat}
    (h : (splitLines bytes)[k]? = some line) :
    ∃ before after, IsLine 10 bytes k before line after := by
  induction bytes generalizing k line with
  | nil =>
    obtain ⟨rfl, rfl⟩ : k = 0 ∧ line = [] := by
      cases k <;> simp_all [splitLines]
    exact ⟨[], [], rfl, rfl, .inl rfl, List.not_mem_nil, .inl rfl⟩
  | cons b rest ih =>
    rw [splitLines] at h
    split_ifs at h with hb
    · subst hb
      cases k with
      | zero =>
        obtain rfl : [] = line := by simpa using h
        exact ⟨[], 10 :: rest, rfl, rfl, .inl rfl, List.not_mem_nil, .inr ⟨rest, rfl⟩⟩
      | succ k =>
        obtain ⟨before, after, hline⟩ := ih (by simpa using h)
        exact ⟨10 :: before, after, hline.cons_newline⟩
    · rcases hlines : splitLines rest with _ | ⟨first, lines⟩
      · exact absurd hlines (splitLines_ne_nil rest)
      · rw [hlines] at h ih
        cases k with
        | zero =>
          obtain rfl : b :: first = line := by simpa using h
          obtain ⟨before, after, hline⟩ := ih List.getElem?_cons_zero
          exact ⟨[], after, hline.cons_first hb⟩
        | succ k =>
          have hlater : (first :: lines)[k + 1]? = some line := h
          obtain ⟨before, after, hline⟩ := ih hlater
          exact ⟨b :: before, after, hline.cons_later hb⟩

lemma chars_append_of_ends {after : List UInt8} (h : after = [] ∨ ∃ bytes, after = 10 :: bytes)
    (line : List UInt8) : chars ⟨line ++ after⟩ = chars ⟨line⟩ ++ chars ⟨after⟩ := by
  rcases h with rfl | ⟨bytes, rfl⟩
  · rw [List.append_nil]
    exact (List.append_nil _).symm
  · have hafter : chars ⟨10 :: bytes⟩ = '\n' :: chars ⟨bytes⟩ := chars_append_newline [] bytes
    rw [chars_append_newline, hafter]

lemma chars_append_of_begins {before : List UInt8}
    (h : before = [] ∨ ∃ bytes, before = bytes ++ [10]) (rest : List UInt8) :
    chars ⟨before ++ rest⟩ = chars ⟨before⟩ ++ chars ⟨rest⟩ := by
  rcases h with rfl | ⟨bytes, rfl⟩
  · rfl
  · rw [List.append_assoc, List.singleton_append, chars_append_newline, chars_append_newline,
      List.append_assoc]
    rfl

/-- A line of bytes is read as a line of characters. -/
lemma isLine_chars {bytes before line after : List UInt8} {k : Nat}
    (h : IsLine 10 bytes k before line after) :
    IsLine '\n' (chars ⟨bytes⟩) k (chars ⟨before⟩) (chars ⟨line⟩) (chars ⟨after⟩) where
  split := by rw [h.split, chars_append_of_begins h.begins, chars_append_of_ends h.ends]
  number := by rw [count_newline_chars, h.number]
  begins := by
    rcases h.begins with rfl | ⟨bytes', rfl⟩
    · exact .inl rfl
    · exact .inr ⟨chars ⟨bytes'⟩, chars_append_newline bytes' []⟩
  newline_notMem := newline_notMem_chars h.newline_notMem
  ends := by
    rcases h.ends with rfl | ⟨bytes', rfl⟩
    · exact .inl rfl
    · exact .inr ⟨chars ⟨bytes'⟩, chars_append_newline [] bytes'⟩

/-- **The lines of a text are lines of its characters.** -/
theorem exists_isLine_of_lines {t line : Text} {k : Nat} (h : t.lines[k]? = some line) :
    ∃ before after, IsLine '\n' t.chars k before line.chars after := by
  obtain ⟨bytes, hbytes, rfl⟩ : ∃ bytes, (splitLines t.bytes)[k]? = some bytes ∧ ⟨bytes⟩ = line := by
    simpa [lines] using h
  obtain ⟨before, after, hline⟩ := exists_isLine_of_splitLines hbytes
  exact ⟨_, _, isLine_chars hline⟩

end Text

end LetScript
