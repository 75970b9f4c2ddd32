import LetScript.Proofs.Typing.Regrouping
import Mathlib.Logic.Function.Basic

/-!
# The rules of types

The types of the language, as one would write them down: seven rules that give an expression a type
in an environment, and the environment behind it.  The rules know no errors and no types that stand
for errors; an expression that breaks a rule just has no type.

The checker with a symbol table goes on behind errors, and then works with resolutions that are not
types.  As long as there is no error it has none of these: its table holds exactly the types of an
environment (`Records`), and its steps are those of the rules.  So it reports no error exactly where
the rules give every expression a type.
-/

namespace LetScript

/-- The types of the names that have been declared. -/
abbrev TypeEnv := Text → Option Ty

/-- In the environment `Γ` the expression has the type `t`, and `Γ'` is the environment behind
it. -/
inductive Typing : (Γ : TypeEnv) → Node → (t : Ty) → (Γ' : TypeEnv) → Prop
  | integer {Γ : TypeEnv} {k : UInt32} {l : Location} :
      Typing Γ (.literal (.integer k) l) .integer Γ
  | string {Γ : TypeEnv} {s : Text} {l : Location} : Typing Γ (.literal (.string s) l) .string Γ
  | binary {Γ Γ₁ Γ₂ : TypeEnv} {left right : Node} {op : Operator} {l : Location} {t : Ty}
      (hleft : Typing Γ left t Γ₁) (hright : Typing Γ₁ right t Γ₂) :
      Typing Γ (.binary left op right l) t Γ₂
  | declaration {Γ Γ₁ : TypeEnv} {name : Text} {expr : Node} {l : Location} {t : Ty}
      (hexpr : Typing Γ expr t Γ₁) :
      Typing Γ (.declaration name none expr l) t (Function.update Γ₁ name (some t))
  | annotated {Γ Γ₁ : TypeEnv} {name : Text} {written : TypeName} {expr : Node} {l : Location}
      {t : Ty} (hexpr : Typing Γ expr t Γ₁) (hwritten : written.name = t.name) :
      Typing Γ (.declaration name (some written) expr l) t (Function.update Γ₁ name (some t))
  | assignment {Γ Γ₁ : TypeEnv} {name : Text} {expr : Node} {l : Location} {t : Ty}
      (hexpr : Typing Γ expr t Γ₁) (hname : Γ₁ name = some t) :
      Typing Γ (.assignment name expr l) t Γ₁
  | reference {Γ : TypeEnv} {name : Text} {l : Location} {t : Ty} (hname : Γ name = some t) :
      Typing Γ (.reference name l) t Γ

/-- The expressions have types, each in the environment behind the one before it. -/
inductive TypingAll : (Γ : TypeEnv) → List Node → (Γ' : TypeEnv) → Prop
  | nil {Γ : TypeEnv} : TypingAll Γ [] Γ
  | cons {Γ Γ₁ Γ₂ : TypeEnv} {n : Node} {nodes : List Node} {t : Ty} (hn : Typing Γ n t Γ₁)
      (hnodes : TypingAll Γ₁ nodes Γ₂) : TypingAll Γ (n :: nodes) Γ₂

/-- The environment before the first expression. -/
def TypeEnv.empty : TypeEnv := fun _ => none

/-! ### Tables that record an environment -/

/-- The table holds the types of the environment, and nothing else. -/
def Records (table : Bindings Resolution) (Γ : TypeEnv) : Prop :=
  ∀ x, table.get? x = (Γ x).map .known

variable {table : Bindings Resolution} {Γ Γ' : TypeEnv} {n : Node} {nodes : List Node} {t : Ty}
  {r : Resolution} {scope' : Scope}

lemma Records.empty : Records ∅ TypeEnv.empty := fun _ => rfl

lemma Records.insert (h : Records table Γ) (name : Text) (t : Ty) :
    Records (table.insert name (.known t)) (Function.update Γ name (some t)) := by
  intro x
  rw [Bindings.get?_insert]
  by_cases hx : x = name
  · subst hx
    simp
  · rw [if_neg hx, Function.update_of_ne hx]
    exact h x

lemma Records.get?_eq_known_iff (h : Records table Γ) {name : Text} :
    table.get? name = some (.known t) ↔ Γ name = some t := by
  rw [h name]
  cases Γ name <;> simp

/-- What a table of types has for a name is a type. -/
lemma Records.exists_known (h : Records table Γ) {name : Text} (hr : table.get? name = some r) :
    ∃ t, r = .known t ∧ Γ name = some t := by
  rw [h name] at hr
  obtain ⟨t, ht, rfl⟩ := Option.map_eq_some_iff.1 hr
  exact ⟨t, rfl, ht⟩

/-! ### Expressions -/

lemma Typing.of_declaration {name : Text} {type : Option TypeName} {expr : Node} {l : Location}
    (hexpr : Typing Γ expr t Γ') (hname : ∀ written, type = some written → written.name = t.name) :
    Typing Γ (.declaration name type expr l) t (Function.update Γ' name (some t)) := by
  cases type with
  | none => exact .declaration hexpr
  | some written => exact .annotated hexpr (hname written rfl)

/-- An expression in which the checker finds no error has a type by the rules, and the checker goes on
with the environment behind it. -/
lemma Passes.exists_typing (h : Passes (some table) n r scope') (hΓ : Records table Γ) :
    ∃ t table' Γ', r = .known t ∧ scope' = some table' ∧ Records table' Γ' ∧ Typing Γ n t Γ' := by
  induction n generalizing table Γ r scope' with
  | literal v l =>
    cases v with
    | integer k =>
      obtain ⟨rfl, rfl, -⟩ := Inference.mk.inj h
      exact ⟨.integer, table, Γ, rfl, rfl, hΓ, .integer⟩
    | string s =>
      obtain ⟨rfl, rfl, -⟩ := Inference.mk.inj h
      exact ⟨.string, table, Γ, rfl, rfl, hΓ, .string⟩
  | binary left op right l ihl ihr =>
    obtain ⟨a, b, scope₁, hleft, hright, hjoin⟩ := passes_binary_iff.1 h
    obtain ⟨t, table₁, Γ₁, rfl, rfl, hΓ₁, htl⟩ := ihl hleft hΓ
    obtain ⟨u, table₂, Γ₂, rfl, rfl, hΓ₂, htr⟩ := ihr hright hΓ₁
    -- both operands have types, so they are compared
    obtain ⟨rfl, rfl⟩ := joinOperands_known_iff.1 hjoin
    exact ⟨t, table₂, Γ₂, rfl, rfl, hΓ₂, .binary htl htr⟩
  | declaration name type expr l ih =>
    obtain ⟨a, scope₁, hexpr, hdeclares, rfl⟩ := passes_declaration_iff.1 h
    obtain ⟨t, table₁, Γ₁, rfl, rfl, hΓ₁, ht⟩ := ih hexpr hΓ
    obtain ⟨rfl, hname⟩ := declares_known_iff.1 hdeclares
    exact ⟨t, _, _, rfl, rfl, hΓ₁.insert name t, ht.of_declaration hname⟩
  | assignment name expr l ih =>
    obtain ⟨hexpr, hassigned⟩ := passes_assignment_iff.1 h
    obtain ⟨t, table₁, Γ₁, rfl, rfl, hΓ₁, ht⟩ := ih hexpr hΓ
    obtain ⟨d, hd, hsame⟩ := hassigned table₁ rfl
    -- the recorded name has a type too, so the two are compared
    obtain ⟨u, rfl, hu⟩ := hΓ₁.exists_known hd
    obtain rfl : u = t := hsame u t rfl rfl
    exact ⟨u, table₁, Γ₁, rfl, rfl, hΓ₁, .assignment ht hu⟩
  | reference name l =>
    obtain ⟨hname, rfl⟩ := passes_reference_iff.1 h
    obtain ⟨t, rfl, ht⟩ := hΓ.exists_known hname
    exact ⟨t, table, Γ, rfl, rfl, hΓ, .reference ht⟩

/-- An expression that has a type by the rules passes with it. -/
lemma Typing.exists_passes (h : Typing Γ n t Γ') (hΓ : Records table Γ) :
    ∃ table', Passes (some table) n (.known t) (some table') ∧ Records table' Γ' := by
  induction h generalizing table with
  | integer => exact ⟨table, rfl, hΓ⟩
  | string => exact ⟨table, rfl, hΓ⟩
  | binary _ _ ihl ihr =>
    obtain ⟨table₁, hleft, hΓ₁⟩ := ihl hΓ
    obtain ⟨table₂, hright, hΓ₂⟩ := ihr hΓ₁
    refine ⟨table₂, passes_binary_iff.2 ⟨_, _, _, hleft, hright, ?_⟩, hΓ₂⟩
    exact joinOperands_known_iff.2 ⟨rfl, rfl⟩
  | @declaration _ _ name _ _ t _ ih =>
    obtain ⟨table₁, hexpr, hΓ₁⟩ := ih hΓ
    refine ⟨_, passes_declaration_iff.2 ⟨_, _, hexpr, ?_, rfl⟩, hΓ₁.insert name t⟩
    exact declares_known_iff.2 ⟨rfl, by simp⟩
  | @annotated _ _ name _ _ _ t _ hwritten ih =>
    obtain ⟨table₁, hexpr, hΓ₁⟩ := ih hΓ
    refine ⟨_, passes_declaration_iff.2 ⟨_, _, hexpr, ?_, rfl⟩, hΓ₁.insert name t⟩
    exact declares_known_iff.2 ⟨rfl, by simpa using hwritten⟩
  | @assignment _ _ name _ _ t _ hname ih =>
    obtain ⟨table₁, hexpr, hΓ₁⟩ := ih hΓ
    refine ⟨table₁, passes_assignment_iff.2 ⟨hexpr, ?_⟩, hΓ₁⟩
    rintro _ ⟨⟩
    refine ⟨.known t, hΓ₁.get?_eq_known_iff.2 hname, ?_⟩
    rintro d u ⟨⟩ ⟨⟩
    rfl
  | reference hname =>
    exact ⟨table, passes_reference_iff.2 ⟨hΓ.get?_eq_known_iff.2 hname, rfl⟩, hΓ⟩

/-! ### Scripts -/

lemma exists_typingAll_of_inferAll (h : inferAll (some table) nodes = (scope', []))
    (hΓ : Records table Γ) : ∃ Γ', TypingAll Γ nodes Γ' := by
  induction nodes generalizing table Γ with
  | nil => exact ⟨Γ, .nil⟩
  | cons n nodes ih =>
    obtain ⟨r, scope₁, hn, hnodes⟩ := inferAll_cons_eq_nil_iff.1 h
    obtain ⟨t, table₁, Γ₁, rfl, rfl, hΓ₁, ht⟩ := hn.exists_typing hΓ
    obtain ⟨Γ', hΓ'⟩ := ih hnodes hΓ₁
    exact ⟨Γ', .cons ht hΓ'⟩

lemma TypingAll.exists_inferAll (h : TypingAll Γ nodes Γ') (hΓ : Records table Γ) :
    ∃ table', inferAll (some table) nodes = (some table', []) ∧ Records table' Γ' := by
  induction h generalizing table with
  | nil => exact ⟨table, rfl, hΓ⟩
  | cons hn _ ih =>
    obtain ⟨table₁, hpasses, hΓ₁⟩ := hn.exists_passes hΓ
    obtain ⟨table', hrest, hΓ'⟩ := ih hΓ₁
    exact ⟨table', inferAll_cons_eq_nil_iff.2 ⟨_, _, hpasses, hrest⟩, hΓ'⟩

/-- **The checker with a symbol table decides the rules of types.**  It reports no error exactly if
the rules give types to all expressions of the script, one after the other, from the empty environment
on.  The rules lead to an environment exactly if there is no error and this environment is what the
checker's symbol table holds at the end. -/
theorem check_eq_nil_iff_typing (nodes : List Node) :
    (check true nodes = [] ↔ ∃ Γ, TypingAll TypeEnv.empty nodes Γ) ∧
    ∀ Γ, TypingAll TypeEnv.empty nodes Γ ↔
      check true nodes = [] ∧ ∃ table, (Checker.ofNodes true nodes).run.2.scope = some table ∧
        ∀ x, table.get? x = (Γ x).map .known := by
  rw [check_eq, Checker.scope_run_ofNodes]
  have hsound : (inferAll (Scope.initial true) nodes).2 = [] →
      ∃ Γ, TypingAll TypeEnv.empty nodes Γ := fun h =>
    exists_typingAll_of_inferAll (Prod.ext rfl h) Records.empty
  have hcomplete : ∀ Γ, TypingAll TypeEnv.empty nodes Γ →
      (inferAll (Scope.initial true) nodes).2 = [] ∧
        ∃ table, (inferAll (Scope.initial true) nodes).1 = some table ∧ Records table Γ := by
    intro Γ h
    obtain ⟨table, htable, hΓ⟩ := h.exists_inferAll Records.empty
    exact ⟨congrArg Prod.snd htable, table, congrArg Prod.fst htable, hΓ⟩
  refine ⟨⟨hsound, fun ⟨Γ, h⟩ => (hcomplete Γ h).1⟩, fun Γ => ⟨hcomplete Γ, ?_⟩⟩
  rintro ⟨hnil, table, htable, hrecords⟩
  obtain ⟨Γ', h⟩ := hsound hnil
  obtain ⟨-, table', htable', hrecords'⟩ := hcomplete Γ' h
  -- the final table is one table, so it records one environment
  obtain rfl : table = table' := Option.some.inj (htable.symm.trans htable')
  obtain rfl : Γ = Γ' := by
    funext x
    have hx : (Γ x).map Resolution.known = (Γ' x).map .known :=
      (hrecords x).symm.trans (hrecords' x)
    exact Option.map_injective (fun _ _ h => Resolution.known.inj h) hx
  exact h

end LetScript
