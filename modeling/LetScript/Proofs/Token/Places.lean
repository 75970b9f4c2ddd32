import LetScript.Proofs.Node.Derivation
import LetScript.Proofs.Token.Tiling
import Mathlib.Order.Basic

/-!
# Places in order

Places are ordered as one reads: by line, and within a line by column.  The place behind a character
comes after the place of the character, so the tokens of a script have increasing places; and so do
the marks of the trees that the tokens are read as.
-/

namespace LetScript

/-! ### The order of places -/

namespace Location

instance : PartialOrder Location where
  le l l' := l.line < l'.line ∨ l.line = l'.line ∧ l.column ≤ l'.column
  lt l l' := l.line < l'.line ∨ l.line = l'.line ∧ l.column < l'.column
  le_refl l := by omega
  le_trans l m n hlm hmn := by omega
  lt_iff_le_not_ge l l' := by omega
  le_antisymm l l' h h' := by
    obtain ⟨i, j⟩ := l
    obtain ⟨i', j'⟩ := l'
    simp only [mk.injEq]
    simp only at h h'
    omega

lemma lt_iff {l l' : Location} :
    l < l' ↔ l.line < l'.line ∨ l.line = l'.line ∧ l.column < l'.column := Iff.rfl

lemma le_iff {l l' : Location} :
    l ≤ l' ↔ l.line < l'.line ∨ l.line = l'.line ∧ l.column ≤ l'.column := Iff.rfl

instance (l l' : Location) : Decidable (l ≤ l') := decidable_of_iff _ le_iff.symm

lemma lt_after (l : Location) (c : Char) : l < l.after c := by
  rw [lt_iff, after]
  split
  · exact .inl (Int.lt_succ _)
  · exact .inr ⟨rfl, Int.lt_succ _⟩

end Location

lemma placeAt_lt {script : List Char} {i j : Nat} (hij : i < j) (hj : j ≤ script.length) :
    placeAt script i < placeAt script j := by
  induction j with
  | zero => omega
  | succ j ih =>
    have hstep : placeAt script j < placeAt script (j + 1) := by
      rw [placeAt_succ (List.getElem?_eq_getElem hj)]
      exact Location.lt_after _ _
    rcases Nat.lt_succ_iff_lt_or_eq.1 hij with hlt | rfl
    · exact lt_trans (ih hlt (Nat.le_of_lt hj)) hstep
    · exact hstep

/-! ### Tokens -/

lemma Tiles.map_location {script : List Char} {k : Nat} {tokens : List Token} {spans : List Span}
    (h : Tiles script k tokens spans) :
    tokens.map Token.location = spans.map fun s => placeAt script s.start := by
  obtain ⟨hstands, -, -, -⟩ := h
  induction hstands with
  | nil => rfl
  | cons ht _ ih => rw [List.map_cons, List.map_cons, ht.location, ih]

lemma Tiles.pairwise_location {script : List Char} {k : Nat} {tokens : List Token}
    {spans : List Span} (h : Tiles script k tokens spans) :
    (tokens.map Token.location).Pairwise (· < ·) := by
  rw [h.map_location, List.pairwise_map]
  refine h.ordered.imp_of_mem fun {s s'} hs hs' hss' => ?_
  obtain ⟨_, -, hstands⟩ := h.exists_token hs
  obtain ⟨_, -, hstands'⟩ := h.exists_token hs'
  have hlt : s.start < s'.start := Nat.lt_of_lt_of_le hstands.start_lt hss'
  exact placeAt_lt hlt (Nat.le_trans (Nat.le_of_lt hstands'.start_lt) hstands'.stop_le)

/-- **The tokens of a script have increasing places.** -/
theorem tokenize_pairwise_location {text : Text} {tokens : List Token}
    (h : tokenize text = .ok tokens) :
    ((script tokens).map Token.location).Pairwise (· < ·) := by
  obtain ⟨lexemes, spans, rfl, hreads⟩ := tokenize_reads h
  have hlexemes : ∀ t ∈ lexemes, t.kind ≠ .endOfFile := fun t ht => (hreads.tiles.kind_ne t ht).1
  rw [script_append hlexemes (by simp [Token.endAt])]
  exact hreads.tiles.pairwise_location

/-! ### Trees -/

/-- The place that a mark keeps, if it keeps one. -/
def Mark.location? : Mark → Option Location
  | number _ l | text _ l | keyword l | operator _ l => some l
  | name _ l => l
  | colon | equals => none

lemma Mark.Fits.location {m : Mark} {t : Token} (h : m.Fits t) :
    ∀ l ∈ m.location?, t.location = l := by
  intro l hl
  cases m with
  | name s l' => exact h.2.2 l hl
  | colon => cases hl
  | equals => cases hl
  | number n l' =>
    cases hl
    exact h.2.2
  | text s l' =>
    cases hl
    exact h.2.2
  | keyword l' =>
    cases hl
    exact h.2
  | operator op l' =>
    cases hl
    exact h.2

/-- The places that a tree keeps, from left to right. -/
def Node.places (n : Node) : List Location := n.marks.filterMap Mark.location?

lemma Written.places_sublist {ms : List Mark} {tokens : List Token} (h : Written ms tokens) :
    (ms.filterMap Mark.location?).Sublist (tokens.map Token.location) := by
  induction h with
  | nil => exact .slnil
  | @cons m t ms tokens hm _ ih =>
    rw [List.map_cons]
    rcases hl : m.location? with _ | l
    · rw [List.filterMap_cons_none hl]
      exact ih.cons _
    · rw [List.filterMap_cons_some hl, hm.location l hl]
      exact ih.cons_cons l

namespace Node

variable {left right expr : Node} {op : Operator} {name : Text} {l : Location}

@[simp] lemma places_literal (v : Literal) (l : Location) : (literal v l).places = [l] := by
  cases v <;> rfl

@[simp] lemma places_reference : (reference name l).places = [l] := rfl

@[simp] lemma places_binary :
    (binary left op right l).places = left.places ++ l :: right.places := by
  simp [places, marks, Mark.location?]

@[simp] lemma places_assignment : (assignment name expr l).places = l :: expr.places := by
  simp [places, marks, Mark.location?, List.filterMap_cons]

@[simp] lemma places_declaration {type : Option TypeName} :
    (declaration name type expr l).places
      = l :: ((type.map TypeName.location).toList ++ expr.places) := by
  cases type <;> simp [places, marks, typeMarks, Mark.location?, List.filterMap_cons]

lemma location_mem_places (n : Node) : n.location ∈ n.places := by
  cases n <;> simp [location]

end Node

/-- The places of the trees that are read from a script increase, from the first tree to the last. -/
lemma pairwise_places_of_parse {g : Grammar} {text : Text} {tokens : List Token}
    {nodes : List Node} (htokens : tokenize text = .ok tokens) (h : parse g tokens = .ok nodes) :
    (nodes.flatMap Node.places).Pairwise (· < ·) := by
  have hsublist := (parse_eq_ok_iff_written.1 h).1.places_sublist
  rw [List.filterMap_flatMap] at hsublist
  exact (tokenize_pairwise_location htokens).sublist hsublist

end LetScript
