import LetScript.Bindings
import Mathlib.Data.List.Forall2
import Mathlib.Tactic.Common

/-!
# Bindings that agree name by name

Several passes walk over the same script and keep a table of names each: the interpreter binds
names to values, the lowering to operands, the type checker to types.  What ties two such tables
together is always the same: they bind the same names, and what one of them binds a name to is
related to what the other one does.

The relation is stated through look-ups, where insertions are easy to follow.  The main result,
`Rel.forall₂_entries`, carries it over to the entries: since both lists are in byte order, related
tables list the same names in the same order.
-/

namespace LetScript.Bindings

variable {α β : Type}

/-! ### Entries and look-ups -/

lemma lookup_eq_none_of_lt {name : Text} {entries : List (Text × α)}
    (h : ∀ e ∈ entries, name < e.1) : entries.lookup name = none := by
  rw [List.lookup_eq_none_iff]
  intro e he
  have hne : name ≠ e.1 := fun heq => Text.lt_irrefl e.1 (heq ▸ h e he)
  simpa using hne

/-- A name that comes before the first one of a sorted list is not in the list. -/
lemma lookup_cons_of_lt {name : Text} {e : Text × α} {entries : List (Text × α)}
    (hsorted : (e :: entries).Pairwise (fun a b => a.1 < b.1)) (h : name < e.1) :
    (e :: entries).lookup name = none := by
  refine lookup_eq_none_of_lt fun f hf => ?_
  rcases List.mem_cons.1 hf with rfl | hf
  · exact h
  · exact Text.lt_trans h (List.rel_of_pairwise_cons hsorted hf)

lemma mem_names_iff_lookup {name : Text} {entries : List (Text × α)} :
    name ∈ entries.map Prod.fst ↔ ∃ a, entries.lookup name = some a := by
  induction entries with
  | nil => simp
  | cons e entries ih =>
    obtain ⟨n, b⟩ := e
    by_cases hn : name = n
    · subst hn
      simp
    · rw [lookup_cons_ne hn, ← ih]
      simp [hn]

/-- The listed names are the bound ones. -/
lemma mem_names_iff {b : Bindings α} {name : Text} : name ∈ b.names ↔ ∃ a, b.get? name = some a :=
  mem_names_iff_lookup

/-- An entry of a sorted list is what looking up its name yields. -/
lemma lookup_eq_some_of_mem {e : Text × α} {entries : List (Text × α)}
    (hsorted : entries.Pairwise (fun a b => a.1 < b.1)) (h : e ∈ entries) :
    entries.lookup e.1 = some e.2 := by
  induction entries with
  | nil => simp at h
  | cons f entries ih =>
    rcases List.mem_cons.1 h with rfl | h
    · exact lookup_cons_self _ _ _
    · have hlt : f.1 < e.1 := List.rel_of_pairwise_cons hsorted h
      have hne : e.1 ≠ f.1 := fun heq => Text.lt_irrefl f.1 (heq ▸ hlt)
      rw [lookup_cons_ne hne]
      exact ih (List.Pairwise.of_cons hsorted) h

lemma get?_of_mem_entries {b : Bindings α} {e : Text × α} (h : e ∈ b.entries) :
    b.get? e.1 = some e.2 :=
  lookup_eq_some_of_mem b.sorted h

/-! ### Related bindings -/

/-- The same names are bound on both sides, and to related things. -/
def Rel (R : α → β → Prop) (b : Bindings α) (c : Bindings β) : Prop :=
  ∀ name, Option.Rel R (b.get? name) (c.get? name)

namespace Rel

variable {R S : α → β → Prop} {b : Bindings α} {c : Bindings β} {name : Text}

lemma empty : Rel R (∅ : Bindings α) (∅ : Bindings β) := fun _ => .none

lemma mono (h : Rel R b c) (hRS : ∀ x y, R x y → S x y) : Rel S b c := by
  intro name
  have hn := h name
  generalize b.get? name = x at hn ⊢
  generalize c.get? name = y at hn ⊢
  cases hn with
  | some hxy => exact .some (hRS _ _ hxy)
  | none => exact .none

lemma insert (h : Rel R b c) (name : Text) {x : α} {y : β} (hxy : R x y) :
    Rel R (b.insert name x) (c.insert name y) := by
  intro m
  rw [get?_insert, get?_insert]
  split
  · exact .some hxy
  · exact h m

/-- Binding a name anew on one side, to something related to what the other side has. -/
lemma insert_left (h : Rel R b c) {x : α} {y : β} (hy : c.get? name = some y) (hxy : R x y) :
    Rel R (b.insert name x) c := by
  intro m
  rw [get?_insert]
  split
  · next hm =>
    rw [hm, hy]
    exact .some hxy
  · exact h m

lemma get?_left (h : Rel R b c) {x : α} (hx : b.get? name = some x) :
    ∃ y, c.get? name = some y ∧ R x y := by
  have hn := h name
  rw [hx] at hn
  generalize c.get? name = r at hn
  cases hn with
  | some hxy => exact ⟨_, rfl, hxy⟩

lemma get?_right (h : Rel R b c) {y : β} (hy : c.get? name = some y) :
    ∃ x, b.get? name = some x ∧ R x y := by
  have hn := h name
  rw [hy] at hn
  generalize b.get? name = r at hn
  cases hn with
  | some hxy => exact ⟨_, rfl, hxy⟩

lemma get?_eq_none_iff (h : Rel R b c) : b.get? name = none ↔ c.get? name = none := by
  constructor
  · intro hb
    by_contra hc
    obtain ⟨y, hy⟩ := Option.ne_none_iff_exists'.1 hc
    obtain ⟨x, hx, -⟩ := h.get?_right hy
    simp [hb] at hx
  · intro hc
    by_contra hb
    obtain ⟨x, hx⟩ := Option.ne_none_iff_exists'.1 hb
    obtain ⟨y, hy, -⟩ := h.get?_left hx
    simp [hc] at hy

end Rel

/-- Sorted lists with related look-ups are related entry by entry. -/
lemma forall₂_of_lookup {R : α → β → Prop} :
    ∀ {xs : List (Text × α)} {ys : List (Text × β)},
      xs.Pairwise (fun a b => a.1 < b.1) → ys.Pairwise (fun a b => a.1 < b.1) →
      (∀ name, Option.Rel R (xs.lookup name) (ys.lookup name)) →
      List.Forall₂ (fun x y => x.1 = y.1 ∧ R x.2 y.2) xs ys
  | [], [], _, _, _ => .nil
  | [], (n, y) :: ys, _, _, h => by
    have hn := h n
    rw [lookup_cons_self] at hn
    nomatch hn
  | (n, x) :: xs, [], _, _, h => by
    have hn := h n
    rw [lookup_cons_self] at hn
    nomatch hn
  | (m, x) :: xs, (n, y) :: ys, hxs, hys, h => by
    -- the smaller of two different first names would be bound on one side only
    have hmn : m = n := by
      by_contra hne
      by_cases hlt : m < n
      · have hm := h m
        rw [lookup_cons_self, lookup_cons_of_lt hys hlt] at hm
        nomatch hm
      · have hn := h n
        rw [lookup_cons_self, lookup_cons_of_lt hxs (Text.lt_of_not_lt_of_ne hlt hne)] at hn
        nomatch hn
    subst hmn
    have hhead := h m
    rw [lookup_cons_self, lookup_cons_self] at hhead
    have hxy : R x y := by
      cases hhead with
      | some hxy => exact hxy
    refine .cons ⟨rfl, hxy⟩ (forall₂_of_lookup hxs.of_cons hys.of_cons fun name => ?_)
    by_cases hname : name = m
    · subst hname
      rw [lookup_eq_none_of_lt fun _ he => List.rel_of_pairwise_cons hxs he,
        lookup_eq_none_of_lt fun _ he => List.rel_of_pairwise_cons hys he]
      exact .none
    · have htail := h name
      rwa [lookup_cons_ne hname, lookup_cons_ne hname] at htail

/-- **Related bindings are related entry by entry**, in byte order of the names. -/
theorem Rel.forall₂_entries {R : α → β → Prop} {b : Bindings α} {c : Bindings β}
    (h : Rel R b c) : List.Forall₂ (fun x y => x.1 = y.1 ∧ R x.2 y.2) b.entries c.entries :=
  forall₂_of_lookup b.sorted c.sorted h

/-- Related bindings list the same names. -/
lemma Rel.names_eq {R : α → β → Prop} {b : Bindings α} {c : Bindings β} (h : Rel R b c) :
    b.names = c.names := by
  have hnames : List.Forall₂ (· = ·) b.names c.names := by
    rw [names, names, List.forall₂_map_left_iff, List.forall₂_map_right_iff]
    exact h.forall₂_entries.imp fun _ _ hxy => hxy.1
  rwa [List.forall₂_eq_eq_eq] at hnames

/-- Bindings that look up the same are the same: the order of the entries leaves no choice. -/
lemma eq_of_get?_eq {b c : Bindings α} (h : ∀ name, b.get? name = c.get? name) : b = c := by
  have hrel : Rel (· = ·) b c := by
    intro name
    rw [h name]
    cases c.get? name with
    | none => exact .none
    | some a => exact .some rfl
  have hentries : List.Forall₂ (· = ·) b.entries c.entries :=
    hrel.forall₂_entries.imp fun _ _ hxy => Prod.ext hxy.1 hxy.2
  rw [List.forall₂_eq_eq_eq] at hentries
  cases b
  cases c
  cases hentries
  rfl

end LetScript.Bindings
