import LetScript.Context
import LetScript.Proofs.Bindings
import Mathlib.Data.List.Induction

/-!
# Tables of names as finite maps

A table of names is filled by binding one name after another, in any order, and the same name as
often as one likes.  All that the table keeps of this history is what each name was bound to last
(`LastBound`), and it lists the names in byte order.  This holds for the scope of a run, and for the
table in which the lowering keeps its operands.

The main result, `setAll_tabulates`, puts this together with how a scope is shown: the output of a
run depends on nothing but the last value of each variable.
-/

namespace LetScript

variable {α : Type}

/-! ### Histories -/

/-- In a history of bindings, the last one of this name is to `a`. -/
def LastBound (history : List (Text × α)) (name : Text) (a : α) : Prop :=
  ∃ before after, history = before ++ (name, a) :: after ∧ name ∉ after.map Prod.fst

lemma not_lastBound_nil (name : Text) (a : α) : ¬ LastBound [] name a := by
  rintro ⟨before, after, hsplit, -⟩
  simp at hsplit

/-- The newest binding is the last one of its name, and changes nothing for other names. -/
lemma lastBound_concat_iff {history : List (Text × α)} {e : Text × α} {name : Text} {a : α} :
    LastBound (history ++ [e]) name a ↔ e = (name, a) ∨ name ≠ e.1 ∧ LastBound history name a := by
  constructor
  · rintro ⟨before, after, hsplit, hafter⟩
    rcases List.eq_nil_or_concat' after with rfl | ⟨after, e', rfl⟩
    · obtain ⟨-, hlast⟩ := List.append_inj' hsplit rfl
      exact .inl (List.cons.inj hlast).1
    · rw [← List.cons_append, ← List.append_assoc] at hsplit
      obtain ⟨hfront, hlast⟩ := List.append_inj' hsplit rfl
      obtain rfl : e = e' := (List.cons.inj hlast).1
      rw [List.map_append, List.mem_append, not_or] at hafter
      have hne : name ≠ e.1 := by simpa using hafter.2
      exact .inr ⟨hne, before, after, hfront, hafter.1⟩
  · rintro (rfl | ⟨hne, before, after, rfl, hafter⟩)
    · exact ⟨history, [], rfl, List.not_mem_nil⟩
    · refine ⟨before, after ++ [e], by simp, ?_⟩
      simpa [hne] using hafter

/-! ### Tables -/

namespace Bindings

/-- Bind names, one after another. -/
def insertAll (b : Bindings α) (history : List (Text × α)) : Bindings α :=
  history.foldl (fun b e => b.insert e.1 e.2) b

lemma insertAll_concat (b : Bindings α) (history : List (Text × α)) (e : Text × α) :
    b.insertAll (history ++ [e]) = (b.insertAll history).insert e.1 e.2 := by
  rw [insertAll, insertAll, List.foldl_concat]

/-- **A name has the value that it was last bound to.** -/
lemma get?_insertAll_eq_some_iff (history : List (Text × α)) (name : Text) (a : α) :
    ((∅ : Bindings α).insertAll history).get? name = some a ↔ LastBound history name a := by
  -- the last binding is the one to look at first, so histories grow at their end
  induction history using List.reverseRecOn with
  | nil =>
    have hnone : ((∅ : Bindings α).insertAll []).get? name = none := rfl
    simp [hnone, not_lastBound_nil]
  | append_singleton history e ih =>
    obtain ⟨m, b⟩ := e
    rw [insertAll_concat, get?_insert, lastBound_concat_iff, ← ih]
    by_cases hm : name = m
    · simp [hm]
    · simp [hm, Ne.symm hm]

/-- A name has no value if and only if it was never bound. -/
lemma get?_insertAll_eq_none_iff (history : List (Text × α)) (name : Text) :
    ((∅ : Bindings α).insertAll history).get? name = none ↔ name ∉ history.map Prod.fst := by
  induction history using List.reverseRecOn with
  | nil => exact iff_of_true rfl List.not_mem_nil
  | append_singleton history e ih =>
    rw [insertAll_concat, get?_insert]
    by_cases hm : name = e.1
    · simp [hm]
    · simp [hm, ih]

/-- The listed names are those that were bound. -/
lemma mem_names_insertAll_iff (history : List (Text × α)) (name : Text) :
    name ∈ ((∅ : Bindings α).insertAll history).names ↔ name ∈ history.map Prod.fst := by
  rw [mem_names_iff, ← Option.ne_none_iff_exists', ne_eq, get?_insertAll_eq_none_iff, not_not]

/-- The names of a table are listed in increasing order. -/
lemma increasing_names (b : Bindings α) :
    b.names.Pairwise (fun m n => m.bytes < n.bytes) :=
  List.pairwise_map.2 b.sorted

/-- Histories in which each name was last bound to the same thing leave the same table. -/
lemma insertAll_eq_of_lastBound {history other : List (Text × α)}
    (h : ∀ name a, LastBound history name a ↔ LastBound other name a) :
    (∅ : Bindings α).insertAll history = (∅ : Bindings α).insertAll other := by
  apply eq_of_get?_eq
  intro name
  ext a
  rw [get?_insertAll_eq_some_iff, get?_insertAll_eq_some_iff]
  exact h name a

end Bindings

/-- A table, given by its look-ups, its names and its size, is what a history of bindings leaves. -/
structure Tabulates (history : List (Text × α)) (get? : Text → Option α) (names : List Text)
    (size : Nat) : Prop where
  /-- A name has the value that it was last bound to. -/
  get?_eq_some_iff : ∀ name a, get? name = some a ↔ LastBound history name a
  /-- A name that was never bound has none. -/
  get?_eq_none_iff : ∀ name, get? name = none ↔ name ∉ history.map Prod.fst
  /-- The names are listed in byte order, each of them once. -/
  increasing : names.Pairwise (fun m n => m.bytes < n.bytes)
  /-- They are those that were bound. -/
  mem_names_iff : ∀ name, name ∈ names ↔ name ∈ history.map Prod.fst
  /-- The size is their number. -/
  size_eq : size = names.length

lemma Bindings.tabulates_insertAll (history : List (Text × α)) :
    Tabulates history ((∅ : Bindings α).insertAll history).get?
      ((∅ : Bindings α).insertAll history).names ((∅ : Bindings α).insertAll history).size where
  get?_eq_some_iff := get?_insertAll_eq_some_iff history
  get?_eq_none_iff := get?_insertAll_eq_none_iff history
  increasing := increasing_names _
  mem_names_iff := mem_names_insertAll_iff history
  size_eq := (List.length_map _).symm

/-! ### Scopes -/

namespace Context

/-- Set variables, one after another. -/
def setAll (c : Context) (history : List (Text × Value)) : Context :=
  history.foldl (fun c e => c.set e.1 e.2) c

lemma setAll_eq (c : Context) (history : List (Text × Value)) :
    c.setAll history = ⟨c.name, c.bindings.insertAll history⟩ := by
  induction history generalizing c with
  | nil => rfl
  | cons e history ih => exact ih (c.set e.1 e.2)

/-- A scope is shown by its name, and a line for each variable in the order of the names. -/
lemma exists_lines (c : Context) :
    ∃ lines : List Text,
      List.Forall₂ (fun name line => ∃ v, c.get? name = some v ∧
        line = "  - " ++ name ++ " = " ++ v.text ++ "\n") c.names lines ∧
      c.text = c.name ++ "\n" ++ Text.concat lines := by
  refine ⟨c.bindings.entries.map bindingLine, ?_, rfl⟩
  rw [names, Bindings.names, List.forall₂_map_left_iff, List.forall₂_map_right_iff,
    List.forall₂_same]
  intro e he
  exact ⟨e.2, Bindings.get?_of_mem_entries he, rfl⟩

end Context

/-- **Tables of names are finite maps with one listing.**  Set the variables of a new scope, or bind
the names of any new table, in any order and as often as one likes.  A look-up yields what the name
was last bound to, and nothing for other names; the listed names are those that were bound, in
strictly increasing byte order, and the size is their number.  The scope is shown by one line for
each of these names, in their order, with its last value; so two histories with the same last value
for every variable show the same. -/
theorem setAll_tabulates (title : Text) (history : List (Text × Value))
    (bound : List (Text × α)) :
    let c := (Context.ofName title).setAll history
    let table := (∅ : Bindings α).insertAll bound
    Tabulates history c.get? c.names c.size ∧
    Tabulates bound table.get? table.names table.size ∧
    (∃ lines : List Text,
      List.Forall₂ (fun name line => ∃ v, LastBound history name v ∧
        line = "  - " ++ name ++ " = " ++ v.text ++ "\n") c.names lines ∧
      c.text = title ++ "\n" ++ Text.concat lines) ∧
    ∀ other : List (Text × Value),
      (∀ name v, LastBound history name v ↔ LastBound other name v) →
        ((Context.ofName title).setAll other).text = c.text := by
  intro c table
  have hc : c = ⟨title, (∅ : Bindings Value).insertAll history⟩ := Context.setAll_eq _ history
  have htable : Tabulates history c.get? c.names c.size := by
    rw [hc]
    exact Bindings.tabulates_insertAll history
  refine ⟨htable, Bindings.tabulates_insertAll bound, ?_, ?_⟩
  · obtain ⟨lines, hlines, htext⟩ := c.exists_lines
    refine ⟨lines, hlines.imp ?_, ?_⟩
    · rintro name line ⟨v, hv, rfl⟩
      exact ⟨v, (htable.get?_eq_some_iff name v).1 hv, rfl⟩
    · rw [htext, hc]
  · intro other hlast
    rw [hc, Context.setAll_eq, Bindings.insertAll_eq_of_lastBound hlast]
    rfl

/-- Two variables, one of them set twice. -/
def resetHistory : List (Text × Value) := [("b", .integer 1), ("a", .integer 2), ("b", .string "x")]

/-- The same variables in another order, each of them set once. -/
def plainHistory : List (Text × Value) := [("b", .string "x"), ("a", .integer 2)]

/-- The order does not matter, nor does what `b` was before. -/
theorem setAll_tabulates_reset :
    (∀ name v, LastBound resetHistory name v ↔ LastBound plainHistory name v) ∧
    ((Context.ofName "Root").setAll plainHistory).text
      = ((Context.ofName "Root").setAll resetHistory).text ∧
    ((Context.ofName "Root").setAll resetHistory).text
      = "Root\n  - a = Integer(2)\n  - b = String(\"x\")\n" := by
  have hsame : (∅ : Bindings Value).insertAll resetHistory
      = (∅ : Bindings Value).insertAll plainHistory := rfl
  have hlast : ∀ name v, LastBound resetHistory name v ↔ LastBound plainHistory name v := by
    intro name v
    rw [← Bindings.get?_insertAll_eq_some_iff, hsame, Bindings.get?_insertAll_eq_some_iff]
  obtain ⟨-, -, -, hshown⟩ := setAll_tabulates "Root" resetHistory resetHistory
  exact ⟨hlast, hshown plainHistory hlast, by decide +kernel⟩

end LetScript
