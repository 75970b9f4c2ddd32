import LetScript.Proofs.Typing.Order
import Mathlib.Data.Finset.Insert

/-!
# Names that are not declared

Which names the checker reports as undefined depends on the names of a script alone.  The walk
`walkNames` keeps the set of the names declared so far and knows no types; its reports are those of
the checker, in the same order, whatever else is wrong with the script.

The two walks are related by `Follows`: the symbol table has an entry for exactly the names in the
set, and the reports are the errors that tell of undefined names.  A declaration adds its name to
both on each of its paths, since the checker records a name also when the written type does not
exist or does not fit.
-/

namespace LetScript

/-- Whether the error reports a name that has not been declared. -/
def TypeError.isUndefined : TypeError → Bool
  | undefinedVariable _ _ => true
  | mismatched _ _ _ | invalidType _ _ => false

/-! ### The walk over the names -/

/-- How far a walk over the names has come. -/
structure NameWalk where
  /-- The names declared so far. -/
  declared : Finset Text
  /-- The reports of names that were not. -/
  reports : List TypeError

namespace NameWalk

/-- The walk before the first expression. -/
def start : NameWalk := ⟨∅, []⟩

/-- A name is declared. -/
def declare (w : NameWalk) (name : Text) : NameWalk := { w with declared := insert name w.declared }

/-- A name is used, and reported if it has not been declared. -/
def use (w : NameWalk) (name : Text) (l : Location) : NameWalk :=
  if name ∈ w.declared then w
  else { w with reports := w.reports ++ [.undefinedVariable l name] }

end NameWalk

/-- The walk over the names of an expression: the left operand before the right one, and what is
given to a name before the name. -/
def Node.walkNames (w : NameWalk) : Node → NameWalk
  | literal _ _ => w
  | binary left _ right _ => right.walkNames (left.walkNames w)
  | declaration name _ expr _ => (expr.walkNames w).declare name
  | assignment name expr l => (expr.walkNames w).use name l
  | reference name l => w.use name l

/-- The walk over the names of a script. -/
def walkNames (nodes : List Node) : NameWalk := nodes.foldl Node.walkNames NameWalk.start

/-! ### Errors that compare types -/

/-- All of the errors tell of two types that do not fit. -/
def OnlyMismatches (errors : List TypeError) : Prop := ∀ e ∈ errors, ∃ l a b, e = .mismatched l a b

lemma onlyMismatches_of_cases {x : Resolution × List TypeError} {P : Prop} {l : Location}
    (h : x.2 = [] ∨ P ∧ ∃ a b, x = (.invalid, [.mismatched l a b])) : OnlyMismatches x.2 := by
  intro e he
  rcases h with hnil | ⟨-, a, b, rfl⟩
  · rw [hnil] at he
    cases he
  · exact ⟨l, a, b, List.mem_singleton.1 he⟩

lemma onlyMismatches_joinOperands (l : Location) (a b : Resolution) :
    OnlyMismatches (joinOperands l a b).2 :=
  onlyMismatches_of_cases ((joinOperands_cases l a b).imp_right fun h => ⟨h.1, h.2.2⟩)

lemma onlyMismatches_conform (l : Location) (declared : Ty) (a : Resolution) :
    OnlyMismatches (conform l declared a).2 :=
  onlyMismatches_of_cases (conform_cases l declared a)

lemma onlyMismatches_reassign (l : Location) (recorded a : Resolution) :
    OnlyMismatches (reassign l recorded a).2 :=
  onlyMismatches_of_cases (reassign_cases l recorded a)

lemma OnlyMismatches.filter_eq_nil {errors : List TypeError} (h : OnlyMismatches errors)
    {p : TypeError → Bool} (hp : ∀ l a b, p (.mismatched l a b) = false) :
    errors.filter p = [] := by
  rw [List.filter_eq_nil_iff]
  intro e he
  obtain ⟨l, a, b, rfl⟩ := h e he
  simp [hp]

lemma OnlyMismatches.filter_isUndefined {errors : List TypeError} (h : OnlyMismatches errors) :
    errors.filter TypeError.isUndefined = [] := h.filter_eq_nil fun _ _ _ => rfl

/-! ### The checker and the walk -/

/-- The walk is where the checker is: they have the same names, and the reports are the errors that
tell of undefined names. -/
structure Follows (table : Bindings Resolution) (errors : List TypeError) (w : NameWalk) :
    Prop where
  mem_declared : ∀ x, x ∈ w.declared ↔ table.get? x ≠ none
  reports_eq : w.reports = errors.filter TypeError.isUndefined

namespace Follows

variable {table : Bindings Resolution} {errors : List TypeError} {w : NameWalk} {name : Text}

lemma start : Follows ∅ [] NameWalk.start where
  mem_declared x := by
    have hnone : (∅ : Bindings Resolution).get? x = none := Bindings.get?_empty x
    simp [NameWalk.start, hnone]
  reports_eq := rfl

lemma declare (h : Follows table errors w) (name : Text) (r : Resolution) :
    Follows (table.insert name r) errors (w.declare name) where
  mem_declared x := by
    rw [NameWalk.declare, Finset.mem_insert, h.mem_declared, Bindings.get?_insert]
    by_cases hx : x = name <;> simp [hx]
  reports_eq := h.reports_eq

/-- Errors of other kinds make no report. -/
lemma append (h : Follows table errors w) {others : List TypeError}
    (hothers : others.filter TypeError.isUndefined = []) : Follows table (errors ++ others) w where
  mem_declared := h.mem_declared
  reports_eq := by rw [List.filter_append, hothers, List.append_nil, h.reports_eq]

lemma use_none (h : Follows table errors w) (hname : table.get? name = none) (l : Location) :
    Follows table (errors ++ [.undefinedVariable l name]) (w.use name l) := by
  have hundeclared : name ∉ w.declared := fun hmem => (h.mem_declared name).1 hmem hname
  rw [NameWalk.use, if_neg hundeclared]
  refine ⟨h.mem_declared, ?_⟩
  rw [List.filter_append, h.reports_eq]
  rfl

lemma use_some (h : Follows table errors w) {r : Resolution} (hname : table.get? name = some r)
    (l : Location) : w.use name l = w := by
  have hdeclared : name ∈ w.declared := (h.mem_declared name).2 (by simp [hname])
  rw [NameWalk.use, if_pos hdeclared]

end Follows

/-- What a declaration adds to the errors of its expression tells of no name. -/
lemma exists_infer_declaration_errors (scope : Scope) (name : Text) (type : Option TypeName)
    (expr : Node) (l : Location) :
    ∃ others, (infer scope (.declaration name type expr l)).errors
        = (infer scope expr).errors ++ others ∧ others.filter TypeError.isUndefined = [] := by
  rcases type with _ | written
  · exact ⟨[], (List.append_nil _).symm, rfl⟩
  · rw [infer]
    rcases hty : Ty.ofName? written.name with _ | declared
    · exact ⟨_, rfl, rfl⟩
    · exact ⟨_, rfl, (onlyMismatches_conform _ _ _).filter_isUndefined⟩

/-- **The walk over the names of an expression follows the checker.** -/
theorem Follows.after {table : Bindings Resolution} {errors : List TypeError} {w : NameWalk}
    (h : Follows table errors w) (n : Node) :
    ∃ table', (infer (some table) n).scope = some table' ∧
      Follows table' (errors ++ (infer (some table) n).errors) (n.walkNames w) := by
  induction n generalizing table errors w with
  | literal v l =>
    refine ⟨table, ?_, h.append ?_⟩
    · cases v <;> rfl
    · cases v <;> rfl
  | binary left op right l ihl ihr =>
    obtain ⟨table₁, hscope₁, h₁⟩ := ihl h
    obtain ⟨table₂, hscope₂, h₂⟩ := ihr h₁
    have hothers : (joinOperands l (infer (some table) left).type
        (infer (some table₁) right).type).2.filter TypeError.isUndefined = [] :=
      (onlyMismatches_joinOperands _ _ _).filter_isUndefined
    refine ⟨table₂, by simp [infer, hscope₁, hscope₂], ?_⟩
    simp only [infer, hscope₁, Node.walkNames]
    simpa only [List.append_assoc] using h₂.append hothers
  | declaration name type expr l ih =>
    obtain ⟨table₁, hscope₁, h₁⟩ := ih h
    obtain ⟨r, hr⟩ := infer_declaration_scope (some table) name type expr l
    obtain ⟨others, herrors, hothers⟩ :=
      exists_infer_declaration_errors (some table) name type expr l
    refine ⟨table₁.insert name r, ?_, ?_⟩
    · rw [hr, hscope₁]
      rfl
    · rw [herrors, ← List.append_assoc]
      exact (h₁.append hothers).declare name r
  | assignment name expr l ih =>
    obtain ⟨table₁, hscope₁, h₁⟩ := ih h
    refine ⟨table₁, ?_⟩
    rw [Node.walkNames]
    cases hname : table₁.get? name with
    | none =>
      rw [infer_assignment_of_none hscope₁ hname, ← List.append_assoc]
      exact ⟨rfl, h₁.use_none hname l⟩
    | some recorded =>
      rw [infer_assignment_of_some hscope₁ hname, h₁.use_some hname, ← List.append_assoc]
      exact ⟨rfl, h₁.append (onlyMismatches_reassign _ _ _).filter_isUndefined⟩
  | reference name l =>
    refine ⟨table, ?_⟩
    rw [infer, Node.walkNames]
    cases hname : table.get? name with
    | none => exact ⟨rfl, h.use_none hname l⟩
    | some recorded =>
      rw [h.use_some hname]
      exact ⟨rfl, h.append rfl⟩

lemma Follows.reports_foldl {table : Bindings Resolution} {errors : List TypeError} {w : NameWalk}
    (h : Follows table errors w) (nodes : List Node) :
    (nodes.foldl Node.walkNames w).reports
      = (errors ++ (inferAll (some table) nodes).2).filter TypeError.isUndefined := by
  induction nodes generalizing table errors w with
  | nil => rw [inferAll, List.append_nil, List.foldl_nil, h.reports_eq]
  | cons n nodes ih =>
    obtain ⟨table₁, hscope₁, h₁⟩ := h.after n
    rw [List.foldl_cons, ih h₁, inferAll, hscope₁, List.append_assoc]

lemma reports_walkNames (nodes : List Node) :
    (walkNames nodes).reports = (check true nodes).filter TypeError.isUndefined := by
  rw [check_eq]
  exact Follows.start.reports_foldl nodes

/-! ### Expressions without types -/

/-- The expression without its written types, and with the number zero for all literals: only its
names are left. -/
def Node.untyped : Node → Node
  | literal _ l => literal (.integer 0) l
  | binary left op right l => binary left.untyped op right.untyped l
  | declaration name _ expr l => declaration name none expr.untyped l
  | assignment name expr l => assignment name expr.untyped l
  | reference name l => reference name l

lemma Node.walkNames_untyped (n : Node) (w : NameWalk) : n.untyped.walkNames w = n.walkNames w := by
  induction n generalizing w with
  | literal v l => rfl
  | binary left op right l ihl ihr => simp only [untyped, walkNames, ihl, ihr]
  | declaration name type expr l ih => simp only [untyped, walkNames, ih]
  | assignment name expr l ih => simp only [untyped, walkNames, ih]
  | reference name l => rfl

lemma walkNames_map_untyped (nodes : List Node) :
    walkNames (nodes.map Node.untyped) = walkNames nodes := by
  simp only [walkNames, List.foldl_map, Node.walkNames_untyped]

/-- Without types, an expression is a number or has an error. -/
def Resolution.Plain (r : Resolution) : Prop := r = .known .integer ∨ r = .invalid

/-- Only such expressions have been given to names. -/
def PlainTable (table : Bindings Resolution) : Prop := ∀ x r, table.get? x = some r → r.Plain

lemma PlainTable.insert {table : Bindings Resolution} (h : PlainTable table) (name : Text)
    {r : Resolution} (hr : r.Plain) : PlainTable (table.insert name r) := by
  intro x s hs
  rw [Bindings.get?_insert] at hs
  split at hs
  · cases hs
    exact hr
  · exact h x s hs

lemma joinOperands_of_plain {a b : Resolution} (ha : a.Plain) (hb : b.Plain) (l : Location) :
    (joinOperands l a b).1.Plain ∧ (joinOperands l a b).2 = [] := by
  rcases ha with rfl | rfl
  · rcases hb with rfl | rfl
    · exact ⟨.inl rfl, rfl⟩
    · exact ⟨.inr rfl, rfl⟩
  · exact ⟨.inr rfl, rfl⟩

lemma reassign_of_plain {a b : Resolution} (ha : a.Plain) (hb : b.Plain) (l : Location) :
    reassign l a b = (b, []) := by
  rcases ha with rfl | rfl
  · rcases hb with rfl | rfl <;> rfl
  · rfl

/-- An expression without types has no errors but those of names. -/
lemma infer_untyped {table : Bindings Resolution} (h : PlainTable table) (n : Node) :
    (infer (some table) n.untyped).type.Plain ∧
      (∀ e ∈ (infer (some table) n.untyped).errors, e.isUndefined = true) ∧
      ∃ table', (infer (some table) n.untyped).scope = some table' ∧ PlainTable table' := by
  induction n generalizing table with
  | literal v l => exact ⟨.inl rfl, by simp [Node.untyped, infer], table, rfl, h⟩
  | binary left op right l ihl ihr =>
    obtain ⟨htype₁, herrors₁, table₁, hscope₁, h₁⟩ := ihl h
    obtain ⟨htype₂, herrors₂, table₂, hscope₂, h₂⟩ := ihr h₁
    obtain ⟨htype, hnil⟩ := joinOperands_of_plain htype₁ htype₂ l
    simp only [Node.untyped, infer, hscope₁, hnil, List.append_nil]
    exact ⟨htype, List.forall_mem_append.2 ⟨herrors₁, herrors₂⟩, table₂, hscope₂, h₂⟩
  | declaration name type expr l ih =>
    obtain ⟨htype, herrors, table₁, hscope₁, h₁⟩ := ih h
    simp only [Node.untyped, infer, hscope₁]
    exact ⟨htype, herrors, _, rfl, h₁.insert name htype⟩
  | assignment name expr l ih =>
    obtain ⟨htype, herrors, table₁, hscope₁, h₁⟩ := ih h
    rw [Node.untyped]
    cases hname : table₁.get? name with
    | none =>
      rw [infer_assignment_of_none hscope₁ hname]
      refine ⟨.inr rfl, List.forall_mem_append.2 ⟨herrors, ?_⟩, table₁, rfl, h₁⟩
      simp [TypeError.isUndefined]
    | some recorded =>
      rw [infer_assignment_of_some hscope₁ hname,
        reassign_of_plain (h₁ name recorded hname) htype, List.append_nil]
      exact ⟨htype, herrors, table₁, rfl, h₁⟩
  | reference name l =>
    rw [Node.untyped, infer]
    cases hname : table.get? name with
    | none => exact ⟨.inr rfl, by simp [TypeError.isUndefined], table, rfl, h⟩
    | some recorded => exact ⟨h name recorded hname, by simp, table, rfl, h⟩

lemma inferAll_untyped {table : Bindings Resolution} (h : PlainTable table) (nodes : List Node) :
    ∀ e ∈ (inferAll (some table) (nodes.map Node.untyped)).2, e.isUndefined = true := by
  induction nodes generalizing table with
  | nil => simp [inferAll]
  | cons n nodes ih =>
    obtain ⟨-, herrors, table₁, hscope₁, h₁⟩ := infer_untyped h n
    simp only [List.map_cons, inferAll, hscope₁]
    exact List.forall_mem_append.2 ⟨herrors, ih h₁⟩

lemma check_map_untyped (nodes : List Node) : check true (nodes.map Node.untyped)
    = (check true (nodes.map Node.untyped)).filter TypeError.isUndefined := by
  have hempty : PlainTable ∅ := fun x r hx => by cases hx
  rw [check_eq]
  exact (List.filter_eq_self.2 (inferAll_untyped hempty nodes)).symm

/-- **Undefined names are found by a walk over names.**  With a symbol table, the errors that report
an undefined name are, in order, the reports of the walk that knows only names.  They are also all
the errors of the script without its types: types that do not fit and written types that do not
exist neither add nor remove such a report. -/
theorem check_filter_isUndefined (nodes : List Node) :
    (check true nodes).filter TypeError.isUndefined = (walkNames nodes).reports ∧
      (check true nodes).filter TypeError.isUndefined = check true (nodes.map Node.untyped) := by
  refine ⟨(reports_walkNames nodes).symm, ?_⟩
  rw [check_map_untyped, ← reports_walkNames, ← reports_walkNames, walkNames_map_untyped]

/-- In `let x: Foo = y + "a"` and `x = x + 1`, the name `x` is declared although its type does not
exist, and `y` is reported although it stands beside a string. -/
example : (walkNames
    [.declaration "x" (some ⟨"Foo", ⟨1, 8⟩⟩)
      (.binary (.reference "y" ⟨1, 14⟩) .plus (.literal (.string "a") ⟨1, 18⟩) ⟨1, 16⟩) ⟨1, 1⟩,
    .assignment "x"
      (.binary (.reference "x" ⟨2, 5⟩) .plus (.literal (.integer 1) ⟨2, 9⟩) ⟨2, 7⟩) ⟨2, 1⟩]).reports
    = [.undefinedVariable ⟨1, 14⟩ "y"] := by
  decide +kernel

end LetScript
