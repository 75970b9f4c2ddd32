import LetScript.Location
import LetScript.Text.Decimal
import Mathlib.Tactic.IntervalCases
import Mathlib.Tactic.Common

/-!
# Texts put together from fields

A text that is put together from fields gives them back if it is cut at the bytes between them: at
the first such byte if the field in front of it has none, at the last one if the field behind it has
none.  A number is read back from its digits.  So a place, whose two numbers stand around a colon,
can be told from its text.
-/

namespace LetScript

/-! ### Cutting -/

namespace Text

lemma append_left_injective (s : Text) : Function.Injective (s ++ ·) := by
  intro t u h
  obtain ⟨t⟩ := t
  obtain ⟨u⟩ := u
  have hbytes : s.bytes ++ t = s.bytes ++ u := congrArg Text.bytes h
  exact congrArg Text.mk (List.append_cancel_left hbytes)

lemma append_right_injective (s : Text) : Function.Injective (· ++ s) := by
  intro t u h
  obtain ⟨t⟩ := t
  obtain ⟨u⟩ := u
  have hbytes : t ++ s.bytes = u ++ s.bytes := congrArg Text.bytes h
  exact congrArg Text.mk (List.append_cancel_right hbytes)

lemma append_assoc (s t u : Text) : s ++ t ++ u = s ++ (t ++ u) :=
  congrArg Text.mk (List.append_assoc s.bytes t.bytes u.bytes)

@[simp] lemma dropStart?_append (s t : Text) : (s ++ t).dropStart? s = some t := by
  simp [dropStart?]

lemma dropStart?_eq_some_iff {s start t : Text} : s.dropStart? start = some t ↔ s = start ++ t := by
  constructor
  · intro h
    obtain ⟨bytes⟩ := s
    have hstart : start.bytes <+: bytes := by
      by_contra hno
      simp [dropStart?, hno] at h
    obtain ⟨tail, rfl⟩ := hstart
    have htail := dropStart?_append start ⟨tail⟩
    rw [← Option.some.inj (htail.symm.trans h)]
    rfl
  · rintro rfl
    exact dropStart?_append start t

/-- Two lists that are equal are cut at the same place by the first `x`. -/
lemma cut_bytes {x : UInt8} {as as' bs bs' : List UInt8} (has : x ∉ as) (has' : x ∉ as')
    (h : as ++ x :: bs = as' ++ x :: bs') : as = as' ∧ bs = bs' := by
  induction as generalizing as' with
  | nil =>
    cases as' with
    | nil => exact ⟨rfl, (List.cons.inj h).2⟩
    | cons a as' => exact absurd (List.cons.inj h).1 (List.ne_of_not_mem_cons has')
  | cons a as ih =>
    cases as' with
    | nil => exact absurd (List.cons.inj h).1.symm (List.ne_of_not_mem_cons has)
    | cons a' as' =>
      obtain ⟨rfl, htail⟩ := List.cons.inj h
      obtain ⟨rfl, hrest⟩ := ih (List.not_mem_of_not_mem_cons has)
        (List.not_mem_of_not_mem_cons has') htail
      exact ⟨rfl, hrest⟩

variable {x : UInt8} {s s' t t' : Text}

/-- The field in front of the first `x` can be told, and so can what is behind it. -/
lemma cut_first (hs : x ∉ s.bytes) (hs' : x ∉ s'.bytes)
    (h : s ++ ⟨[x]⟩ ++ t = s' ++ ⟨[x]⟩ ++ t') : s = s' ∧ t = t' := by
  have hbytes : s.bytes ++ x :: t.bytes = s'.bytes ++ x :: t'.bytes := by
    simpa using congrArg Text.bytes h
  obtain ⟨hfront, hback⟩ := cut_bytes hs hs' hbytes
  exact ⟨congrArg Text.mk hfront, congrArg Text.mk hback⟩

/-- The field behind the last `x` can be told, and so can what is in front of it. -/
lemma cut_last (ht : x ∉ t.bytes) (ht' : x ∉ t'.bytes)
    (h : s ++ ⟨[x]⟩ ++ t = s' ++ ⟨[x]⟩ ++ t') : s = s' ∧ t = t' := by
  have hbytes : t.bytes.reverse ++ x :: s.bytes.reverse
      = t'.bytes.reverse ++ x :: s'.bytes.reverse := by
    simpa using congrArg (fun u : Text => u.bytes.reverse) h
  obtain ⟨hback, hfront⟩ := cut_bytes (by simpa using ht) (by simpa using ht') hbytes
  exact ⟨congrArg Text.mk (List.reverse_inj.1 hfront), congrArg Text.mk (List.reverse_inj.1 hback)⟩

end Text

/-! ### Numbers written in a base -/

/-- The bytes write the number `n` in base `b`, where `digit` tells the digits of the base and
`value` what each of them stands for. -/
structure Writes (b : Nat) (digit : UInt8 → Bool) (value : UInt8 → Nat) (bytes : List UInt8)
    (n : Nat) : Prop where
  ne_nil : bytes ≠ []
  digits : bytes.all digit = true
  value_eq : bytes.foldl (fun m x => m * b + value x) 0 = n

/-- A number is written by its digits, provided that each digit is written by a byte that stands
for it. -/
lemma writes_toDigits {b : Nat} (hb : 1 < b) {digit : UInt8 → Bool} {value : UInt8 → Nat}
    {f : Char → List UInt8}
    (hf : ∀ d < b, ∃ x, f (Nat.digitChar d) = [x] ∧ digit x = true ∧ value x = d) (n : Nat) :
    Writes b digit value ((Nat.toDigits b n).flatMap f) n := by
  induction n using Nat.base_induction b hb with
  | single m hm =>
    obtain ⟨x, hx, hdigit, hvalue⟩ := hf m hm
    rw [Nat.toDigits_of_lt_base hm, List.flatMap_singleton, hx]
    exact ⟨by simp, by simpa using hdigit, by simpa using hvalue⟩
  | digit m k hk hm ih =>
    obtain ⟨x, hx, hdigit, hvalue⟩ := hf k hk
    rw [← Nat.toDigits_append_toDigits hb hm hk, Nat.toDigits_of_lt_base hk, List.flatMap_append,
      List.flatMap_singleton, hx]
    refine ⟨by simp, ?_, ?_⟩
    · simpa [hdigit] using ih.digits
    · rw [List.foldl_append, ih.value_eq]
      simp [hvalue, Nat.mul_comm]

namespace Text

lemma writes_ofNat (n : Nat) :
    Writes 10 isDigitByte (fun x => x.toNat - 0x30) (ofNat n).bytes n := by
  refine writes_toDigits (by decide) (fun d hd => ?_) n
  interval_cases d <;> exact ⟨_, rfl, by decide, by decide⟩

/-- A number can be read back from its decimal form. -/
@[simp] lemma decimal?_ofNat (n : Nat) : (ofNat n).decimal? = some n := by
  have h := writes_ofNat n
  have hne : (ofNat n).bytes.isEmpty = false := by simpa using h.ne_nil
  rw [decimal?, hne, h.digits]
  exact congrArg some h.value_eq

lemma ofNat_injective : Function.Injective ofNat := by
  intro m n h
  have hdecimal : (ofNat m).decimal? = (ofNat n).decimal? := by rw [h]
  simpa using hdecimal

lemma isDigitByte_of_mem_ofNat {n : Nat} {b : UInt8} (h : b ∈ (ofNat n).bytes) :
    isDigitByte b = true :=
  List.all_eq_true.1 (writes_ofNat n).digits b h

/-- An integer is written with digits and, in front of them, a minus sign. -/
lemma mem_bytes_ofInt {n : Int} {b : UInt8} (h : b ∈ (ofInt n).bytes) :
    isDigitByte b = true ∨ b = 0x2D := by
  cases n with
  | ofNat n => exact .inl (isDigitByte_of_mem_ofNat h)
  | negSucc n =>
    rcases List.mem_append.1 h with hsign | hdigit
    · exact .inr (List.mem_singleton.1 hsign)
    · exact .inl (isDigitByte_of_mem_ofNat hdigit)

lemma ofInt_injective : Function.Injective ofInt := by
  -- a minus sign is no digit
  have hsign : ∀ m n : Nat, ofNat m ≠ "-" ++ ofNat n := by
    intro m n h
    have hdigit : isDigitByte 0x2D = true := by
      refine isDigitByte_of_mem_ofNat (n := m) ?_
      rw [h]
      exact List.mem_cons_self
    exact absurd hdigit (by decide)
  intro m n h
  cases m with
  | ofNat m =>
    cases n with
    | ofNat n => exact congrArg Int.ofNat (ofNat_injective h)
    | negSucc n => exact absurd h (hsign _ _)
  | negSucc m =>
    cases n with
    | ofNat n => exact absurd h.symm (hsign _ _)
    | negSucc n =>
      have hsucc : m + 1 = n + 1 := ofNat_injective (append_left_injective _ h)
      exact congrArg Int.negSucc (Nat.succ.inj hsucc)

end Text

/-! ### Places -/

namespace Location

/-- A place is written with digits, minus signs and a colon. -/
lemma mem_bytes_text {l : Location} {b : UInt8} (h : b ∈ l.text.bytes) :
    Text.isDigitByte b = true ∨ b = 0x2D ∨ b = 0x3A := by
  rcases List.mem_append.1 h with h | hcolumn
  · rcases List.mem_append.1 h with hline | hcolon
    · exact (Text.mem_bytes_ofInt hline).imp_right .inl
    · exact .inr (.inr (List.mem_singleton.1 hcolon))
  · exact (Text.mem_bytes_ofInt hcolumn).imp_right .inl

lemma text_injective : Function.Injective text := by
  have hcolon : ∀ n : Int, 0x3A ∉ (Text.ofInt n).bytes :=
    fun n h => absurd (Text.mem_bytes_ofInt h) (by decide)
  intro l l' h
  obtain ⟨hline, hcolumn⟩ := Text.cut_first (hcolon _) (hcolon _) h
  obtain ⟨line, column⟩ := l
  obtain ⟨line', column'⟩ := l'
  exact congrArg₂ mk (Text.ofInt_injective hline) (Text.ofInt_injective hcolumn)

end Location

end LetScript
