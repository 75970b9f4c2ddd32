import LetScript.Text.Basic

/-!
# Bindings of names

A finite map from names to whatever they are bound to, held as a list of entries in strictly
increasing byte order of the names.  Two sequences of insertions that leave the same last value
for every name therefore leave the same bindings.
-/

namespace LetScript

/-- Names and what they are bound to, each name once, in byte order. -/
structure Bindings (α : Type) where
  /-- The entries. -/
  entries : List (Text × α)
  /-- The names increase strictly. -/
  sorted : entries.Pairwise (fun a b => a.1 < b.1)

namespace Bindings

variable {α : Type}

/-- No bindings. -/
def empty : Bindings α := ⟨[], .nil⟩

instance : EmptyCollection (Bindings α) := ⟨empty⟩

instance : Inhabited (Bindings α) := ⟨empty⟩

/-- Put an entry at its place, instead of an older entry of the same name. -/
def insertEntry (name : Text) (a : α) : List (Text × α) → List (Text × α)
  | [] => [(name, a)]
  | (n, b) :: rest =>
    if name < n then (name, a) :: (n, b) :: rest
    else if name = n then (name, a) :: rest
    else (n, b) :: insertEntry name a rest

theorem fst_mem_insertEntry {name : Text} {a : α} {entries : List (Text × α)} {e : Text × α}
    (h : e ∈ insertEntry name a entries) : e.1 = name ∨ e ∈ entries := by
  induction entries with
  | nil =>
    simp only [insertEntry, List.mem_singleton] at h
    exact .inl (by rw [h])
  | cons x rest ih =>
    obtain ⟨n, b⟩ := x
    simp only [insertEntry] at h
    split at h
    · rcases List.mem_cons.1 h with rfl | h
      · exact .inl rfl
      · exact .inr h
    · split at h
      · rcases List.mem_cons.1 h with rfl | h
        · exact .inl rfl
        · exact .inr (List.mem_cons_of_mem _ h)
      · rcases List.mem_cons.1 h with rfl | h
        · exact .inr List.mem_cons_self
        · exact (ih h).imp_right (List.mem_cons_of_mem _)

theorem sorted_insertEntry (name : Text) (a : α) {entries : List (Text × α)}
    (h : entries.Pairwise (fun a b => a.1 < b.1)) :
    (insertEntry name a entries).Pairwise (fun a b => a.1 < b.1) := by
  induction entries with
  | nil => simp [insertEntry]
  | cons x rest ih =>
    obtain ⟨n, b⟩ := x
    obtain ⟨hx, hrest⟩ := List.pairwise_cons.1 h
    simp only [insertEntry]
    split
    · rename_i hlt
      refine List.pairwise_cons.2 ⟨fun e he => ?_, h⟩
      rcases List.mem_cons.1 he with rfl | he
      · exact hlt
      · exact Text.lt_trans hlt (hx e he)
    · split
      · rename_i heq
        exact List.pairwise_cons.2 ⟨fun e he => heq ▸ hx e he, hrest⟩
      · rename_i hnlt hne
        refine List.pairwise_cons.2 ⟨fun e he => ?_, ih hrest⟩
        rcases fst_mem_insertEntry he with heq | he
        · rw [heq]
          exact Text.lt_of_not_lt_of_ne hnlt hne
        · exact hx e he

/-- Bind a name; an older binding of it is forgotten. -/
def insert (b : Bindings α) (name : Text) (a : α) : Bindings α :=
  ⟨insertEntry name a b.entries, sorted_insertEntry name a b.sorted⟩

/-- What a name is bound to. -/
def get? (b : Bindings α) (name : Text) : Option α := b.entries.lookup name

/-- The bound names, in byte order. -/
def names (b : Bindings α) : List Text := b.entries.map Prod.fst

/-- The number of bound names. -/
def size (b : Bindings α) : Nat := b.entries.length

@[simp] theorem get?_empty (name : Text) : (empty : Bindings α).get? name = none := rfl

theorem lookup_cons_self (name : Text) (a : α) (entries : List (Text × α)) :
    ((name, a) :: entries).lookup name = some a := by
  simp

theorem lookup_cons_ne {m name : Text} (h : m ≠ name) (a : α) (entries : List (Text × α)) :
    ((name, a) :: entries).lookup m = entries.lookup m := by
  simp [List.lookup_cons, beq_eq_false_iff_ne.2 h]

theorem lookup_insertEntry (name m : Text) (a : α) (entries : List (Text × α)) :
    (insertEntry name a entries).lookup m = if m = name then some a else entries.lookup m := by
  by_cases hm : m = name
  · subst hm
    rw [if_pos rfl]
    induction entries with
    | nil => exact lookup_cons_self m a []
    | cons x rest ih =>
      obtain ⟨n, b⟩ := x
      simp only [insertEntry]
      split
      · exact lookup_cons_self m a _
      · split
        · exact lookup_cons_self m a _
        · rename_i hne
          rw [lookup_cons_ne hne, ih]
  · rw [if_neg hm]
    induction entries with
    | nil => exact lookup_cons_ne hm a []
    | cons x rest ih =>
      obtain ⟨n, b⟩ := x
      simp only [insertEntry]
      split
      · exact lookup_cons_ne hm a _
      · split
        · rename_i heq
          rw [lookup_cons_ne hm, lookup_cons_ne (heq ▸ hm)]
        · by_cases hn : m = n
          · subst hn
            rw [lookup_cons_self, lookup_cons_self]
          · rw [lookup_cons_ne hn, lookup_cons_ne hn, ih]

/-- Looking up after an insertion: the new value for its own name, the old one for others. -/
@[simp] theorem get?_insert (b : Bindings α) (name m : Text) (a : α) :
    (b.insert name a).get? m = if m = name then some a else b.get? m :=
  lookup_insertEntry name m a b.entries

end Bindings

end LetScript
