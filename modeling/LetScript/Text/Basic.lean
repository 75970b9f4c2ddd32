/-!
# Text as bytes

A script comes from a file, and a file may hold any bytes: names, string literals and messages
all carry what was read, whether it is well-formed UTF-8 or not.  A `Text` is therefore a list
of bytes, and its order is the byte order, in which bindings are listed.
-/

namespace LetScript

/-- A text: any sequence of bytes, usually the UTF-8 form of some characters. -/
structure Text where
  /-- The bytes, first to last. -/
  bytes : List UInt8
deriving DecidableEq

namespace Text

/-- The text without bytes. -/
def empty : Text := ⟨[]⟩

instance : Inhabited Text := ⟨empty⟩

instance : EmptyCollection Text := ⟨empty⟩

/-- One text behind the other. -/
def append (s t : Text) : Text := ⟨s.bytes ++ t.bytes⟩

instance : Append Text := ⟨append⟩

@[simp] theorem bytes_append (s t : Text) : (s ++ t).bytes = s.bytes ++ t.bytes := rfl

/-- The UTF-8 form of a list of characters. -/
def ofChars (cs : List Char) : Text := ⟨cs.flatMap String.utf8EncodeChar⟩

@[simp] theorem ofChars_nil : ofChars [] = empty := rfl

@[simp] theorem ofChars_append (cs ds : List Char) :
    ofChars (cs ++ ds) = ofChars cs ++ ofChars ds := by
  show Text.mk _ = Text.mk _
  simp [ofChars, List.flatMap_append]

/-- The UTF-8 form of a string. -/
def ofString (s : String) : Text := ofChars s.toList

instance : Coe String Text := ⟨ofString⟩

/-- Whether there are no bytes. -/
def isEmpty (t : Text) : Bool := t.bytes.isEmpty

/-- The number of bytes. -/
def size (t : Text) : Nat := t.bytes.length

/-- All texts of a list, one behind the other. -/
def concat (ts : List Text) : Text := ⟨ts.flatMap Text.bytes⟩

@[simp] theorem concat_nil : concat [] = empty := rfl

@[simp] theorem concat_cons (t : Text) (ts : List Text) : concat (t :: ts) = t ++ concat ts := by
  show Text.mk _ = Text.mk _
  simp [concat]

@[simp] theorem concat_append (ss ts : List Text) : concat (ss ++ ts) = concat ss ++ concat ts := by
  show Text.mk _ = Text.mk _
  simp [concat, List.flatMap_append]

/-- The texts of a list with a separator between neighbours. -/
def join (sep : Text) : List Text → Text
  | [] => empty
  | [t] => t
  | t :: ts => t ++ sep ++ join sep ts

/-- Copies of one byte. -/
def replicate (n : Nat) (b : UInt8) : Text := ⟨List.replicate n b⟩

/-- A natural number in decimal. -/
def ofNat (n : Nat) : Text := ofChars (Nat.toDigits 10 n)

/-- An integer in decimal, with a minus sign when it is negative. -/
def ofInt : Int → Text
  | .ofNat n => ofNat n
  | .negSucc n => "-" ++ ofNat (n + 1)

/-! ## Order -/

/-- Byte order: at the first difference the smaller byte decides, and a text comes before its
own extensions. -/
instance : LT Text := ⟨fun s t => s.bytes < t.bytes⟩

instance (s t : Text) : Decidable (s < t) :=
  inferInstanceAs (Decidable (s.bytes < t.bytes))

theorem lt_irrefl (s : Text) : ¬ s < s := List.lt_irrefl s.bytes

theorem lt_trans {s t u : Text} (h : s < t) (k : t < u) : s < u := List.lt_trans h k

theorem lt_of_not_lt_of_ne {s t : Text} (h : ¬ s < t) (hne : s ≠ t) : t < s := by
  rcases List.le_iff_lt_or_eq.1 (List.not_lt.1 h) with hlt | heq
  · exact hlt
  · exact absurd (by cases s; cases t; simp_all) hne

/-! ## Lines and beginnings -/

/-- The pieces between newline bytes; `n` newlines make `n + 1` pieces. -/
def splitLines : List UInt8 → List (List UInt8)
  | [] => [[]]
  | b :: rest =>
    if b = 10 then [] :: splitLines rest
    else
      match splitLines rest with
      | line :: lines => (b :: line) :: lines
      | [] => [[b]]

/-- The lines of a text, without their newlines. -/
def lines (t : Text) : List Text := (splitLines t.bytes).map Text.mk

/-- What follows `start`, when the text begins with it. -/
def dropStart? (t start : Text) : Option Text :=
  if start.bytes.isPrefixOf t.bytes then some ⟨t.bytes.drop start.bytes.length⟩ else none

end Text

end LetScript
