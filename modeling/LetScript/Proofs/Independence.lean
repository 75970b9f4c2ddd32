import LetScript.Proofs.Bindings
import LetScript.Proofs.Sums
import Mathlib.Data.Finset.Lattice.Lemmas

/-!
# Independent expressions

An expression *reads* the names it uses, and *writes* the names that it declares or assigns; both at
any depth, since declarations and assignments are expressions too.  What it does is bounded by these
names: it changes no name that it does not write (`eval_frame`), and what it yields depends only on
the names it reads or writes (`eval_agree`).  An assignment depends on its name although it only
writes it, because the name must be bound before.

Two expressions are *independent* if neither writes a name that the other one reads or writes.  Then
each leaves alone what the other depends on, so they can change places in a script (`run_swap`).
-/

namespace LetScript

/-! ### Names that are read and written -/

namespace Node

/-- The names that an expression uses. -/
def reads : Node → Finset Text
  | literal _ _ => ∅
  | binary left _ right _ => left.reads ∪ right.reads
  | declaration _ _ expr _ => expr.reads
  | assignment _ expr _ => expr.reads
  | reference name _ => {name}

/-- The names that an expression declares or assigns. -/
def writes : Node → Finset Text
  | literal _ _ => ∅
  | binary left _ right _ => left.writes ∪ right.writes
  | declaration name _ expr _ => insert name expr.writes
  | assignment name expr _ => insert name expr.writes
  | reference _ _ => ∅

/-- Neither of two expressions writes a name that the other one reads or writes. -/
structure Independent (m n : Node) : Prop where
  left : ∀ x ∈ m.writes, x ∉ n.reads ∧ x ∉ n.writes
  right : ∀ x ∈ n.writes, x ∉ m.reads ∧ x ∉ m.writes

instance (m n : Node) : Decidable (Independent m n) :=
  decidable_of_iff
    ((∀ x ∈ m.writes, x ∉ n.reads ∧ x ∉ n.writes) ∧ ∀ x ∈ n.writes, x ∉ m.reads ∧ x ∉ m.writes)
    ⟨fun h => ⟨h.1, h.2⟩, fun h => ⟨h.left, h.right⟩⟩

lemma Independent.symm {m n : Node} (h : Independent m n) : Independent n m := ⟨h.right, h.left⟩

end Node

/-! ### Scopes that agree on some names -/

namespace Context

variable {c d e : Context} {names : Finset Text}

@[simp] lemma get?_set (c : Context) (name x : Text) (v : Value) :
    (c.set name v).get? x = if x = name then some v else c.get? x :=
  Bindings.get?_insert c.bindings name x v

/-- Two scopes have the same values for some names. -/
def AgreeOn (names : Finset Text) (c d : Context) : Prop := ∀ x ∈ names, c.get? x = d.get? x

lemma AgreeOn.set (h : AgreeOn names c d) (name : Text) (v : Value) :
    AgreeOn names (c.set name v) (d.set name v) := by
  intro x hx
  rw [get?_set, get?_set, h x hx]

/-- What one scope leaves as another one has it, it still does when a name is set, up to this
name. -/
lemma get?_set_of_frame (h : ∀ x ∉ names, c.get? x = d.get? x) (name : Text) (v : Value) :
    ∀ x ∉ insert name names, (c.set name v).get? x = d.get? x := by
  intro x hx
  rw [Finset.mem_insert, not_or] at hx
  rw [get?_set, if_neg hx.1, h x hx.2]

/-- A scope is its name and the values of its variables. -/
lemma eq_of_get?_eq (hname : c.name = d.name) (h : ∀ x, c.get? x = d.get? x) : c = d := by
  have hbindings : c.bindings = d.bindings := Bindings.eq_of_get?_eq h
  cases c
  cases d
  cases hname
  cases hbindings
  rfl

end Context

/-! ### What an evaluation changes, and what it depends on -/

variable {arithmetic : Bool} {m n : Node} {c c' c₁ c₂ d : Context} {v w : Value}

/-- **An evaluation changes only what the expression writes.** -/
theorem eval_frame (h : eval arithmetic n c = .ok (v, c')) :
    c'.name = c.name ∧ ∀ x ∉ n.writes, c'.get? x = c.get? x := by
  induction n generalizing c c' v with
  | literal value l =>
    obtain rfl : c = c' := by cases value <;> simp_all [eval]
    exact ⟨rfl, fun _ _ => rfl⟩
  | reference name l =>
    obtain ⟨-, rfl⟩ := eval_reference_eq_ok.1 h
    exact ⟨rfl, fun _ _ => rfl⟩
  | declaration name type expr l ih =>
    obtain ⟨c₁, hexpr, rfl⟩ := eval_declaration_eq_ok.1 h
    obtain ⟨hname, hframe⟩ := ih hexpr
    exact ⟨hname, Context.get?_set_of_frame hframe name v⟩
  | assignment name expr l ih =>
    obtain ⟨-, c₁, hexpr, rfl⟩ := eval_assignment_eq_ok.1 h
    obtain ⟨hname, hframe⟩ := ih hexpr
    exact ⟨hname, Context.get?_set_of_frame hframe name v⟩
  | binary left op right l ihl ihr =>
    obtain ⟨-, -, i, j, c₁, hleft, hright, -⟩ := eval_binary_eq_ok.1 h
    obtain ⟨hnamel, hframel⟩ := ihl hleft
    obtain ⟨hnamer, hframer⟩ := ihr hright
    refine ⟨hnamer.trans hnamel, fun x hx => ?_⟩
    rw [Node.writes, Finset.mem_union, not_or] at hx
    rw [hframer x hx.2, hframel x hx.1]

/-- **An evaluation depends only on what the expression reads or writes.**  In a scope that has the
same values for these names, and maybe for others, it yields the same value, and afterwards the
scopes still have the same values for all of them. -/
theorem eval_agree {names : Finset Text} (hreads : n.reads ⊆ names) (hwrites : n.writes ⊆ names)
    (hagree : c.AgreeOn names d) (h : eval arithmetic n c = .ok (v, c')) :
    ∃ d', eval arithmetic n d = .ok (v, d') ∧ c'.AgreeOn names d' := by
  induction n generalizing c c' d v with
  | literal value l =>
    cases value with
    | integer k =>
      cases h
      exact ⟨d, rfl, hagree⟩
    | string s =>
      cases h
      exact ⟨d, rfl, hagree⟩
  | reference name l =>
    obtain ⟨hname, rfl⟩ := eval_reference_eq_ok.1 h
    have hmem : name ∈ names := hreads (Finset.mem_singleton_self name)
    exact ⟨d, eval_reference_eq_ok.2 ⟨(hagree name hmem).symm.trans hname, rfl⟩, hagree⟩
  | declaration name type expr l ih =>
    obtain ⟨c₁, hexpr, rfl⟩ := eval_declaration_eq_ok.1 h
    obtain ⟨-, hexprs⟩ := Finset.insert_subset_iff.1 hwrites
    obtain ⟨d₁, hd₁, hagree₁⟩ := ih hreads hexprs hagree hexpr
    exact ⟨d₁.set name v, eval_declaration_eq_ok.2 ⟨d₁, hd₁, rfl⟩, hagree₁.set name v⟩
  | assignment name expr l ih =>
    obtain ⟨⟨u, hu⟩, c₁, hexpr, rfl⟩ := eval_assignment_eq_ok.1 h
    obtain ⟨hmem, hexprs⟩ := Finset.insert_subset_iff.1 hwrites
    obtain ⟨d₁, hd₁, hagree₁⟩ := ih hreads hexprs hagree hexpr
    -- the name is among those that are written, so it is bound here as it is there
    have hbound : d.get? name = some u := (hagree name hmem).symm.trans hu
    exact ⟨d₁.set name v, eval_assignment_eq_ok.2 ⟨⟨u, hbound⟩, d₁, hd₁, rfl⟩, hagree₁.set name v⟩
  | binary left op right l ihl ihr =>
    obtain ⟨harith, hop, i, j, c₁, hleft, hright, rfl⟩ := eval_binary_eq_ok.1 h
    obtain ⟨hreadsl, hreadsr⟩ := Finset.union_subset_iff.1 hreads
    obtain ⟨hwritesl, hwritesr⟩ := Finset.union_subset_iff.1 hwrites
    obtain ⟨d₁, hd₁, hagree₁⟩ := ihl hreadsl hwritesl hagree hleft
    obtain ⟨d₂, hd₂, hagree₂⟩ := ihr hreadsr hwritesr hagree₁ hright
    exact ⟨d₂, eval_binary_eq_ok.2 ⟨harith, hop, i, j, d₁, hd₁, hd₂, rfl⟩, hagree₂⟩

/-- The evaluation of one of two independent expressions leaves alone what the other one depends
on. -/
lemma Node.Independent.agreeOn (h : m.Independent n) (hm : eval arithmetic m c = .ok (v, c')) :
    c'.AgreeOn (n.reads ∪ n.writes) c := by
  intro x hx
  refine (eval_frame hm).2 x fun hmem => ?_
  obtain ⟨hreads, hwrites⟩ := h.left x hmem
  rcases Finset.mem_union.1 hx with hx | hx
  · exact hreads hx
  · exact hwrites hx

/-! ### Independent expressions change places -/

/-- Two independent expressions, one evaluated behind the other, can be evaluated in the other order
too, with the same values and the same bindings in the end. -/
lemma Node.Independent.eval_swap (h : m.Independent n) (hm : eval arithmetic m c = .ok (v, c₁))
    (hn : eval arithmetic n c₁ = .ok (w, c₂)) :
    ∃ d, eval arithmetic n c = .ok (w, d) ∧ eval arithmetic m d = .ok (v, c₂) := by
  obtain ⟨d₁, hd₁, hagree₁⟩ :=
    eval_agree Finset.subset_union_left Finset.subset_union_right (h.agreeOn hm) hn
  have hback : c.AgreeOn (m.reads ∪ m.writes) d₁ := fun x hx => (h.symm.agreeOn hd₁ x hx).symm
  obtain ⟨d₂, hd₂, hagree₂⟩ :=
    eval_agree Finset.subset_union_left Finset.subset_union_right hback hm
  obtain ⟨hname₁, hframe₁⟩ := eval_frame hm
  obtain ⟨hname₂, hframe₂⟩ := eval_frame hn
  obtain ⟨hname₃, hframe₃⟩ := eval_frame hd₁
  obtain ⟨hname₄, hframe₄⟩ := eval_frame hd₂
  -- each name has been written by one of the two at most, and has its value from there
  have hsame : d₂ = c₂ := by
    refine Context.eq_of_get?_eq ?_ fun x => ?_
    · rw [hname₄, hname₃, hname₂, hname₁]
    · by_cases hxm : x ∈ m.writes
      · have hxn : x ∉ n.writes := (h.left x hxm).2
        rw [← hagree₂ x (Finset.mem_union_right _ hxm), hframe₂ x hxn]
      · rw [hframe₄ x hxm]
        by_cases hxn : x ∈ n.writes
        · rw [hagree₁ x (Finset.mem_union_right _ hxn)]
        · rw [hframe₃ x hxn, hframe₂ x hxn, hframe₁ x hxm]
  exact ⟨d₁, hd₁, hsame ▸ hd₂⟩

lemma Node.Independent.evalAll_swap (h : m.Independent n) {before after : List Node}
    (heval : evalAll arithmetic (before ++ [m, n] ++ after) c = .ok c') :
    evalAll arithmetic (before ++ [n, m] ++ after) c = .ok c' := by
  simp only [List.append_assoc, List.cons_append, List.nil_append, evalAll_append_eq_ok,
    evalAll_cons_eq_ok] at heval ⊢
  obtain ⟨c₀, hbefore, v, c₁, hm, w, c₂, hn, hafter⟩ := heval
  obtain ⟨d, hd, hback⟩ := h.eval_swap hm hn
  exact ⟨c₀, hbefore, w, d, hd, v, c₂, hback, hafter⟩

/-- **Independent expressions commute.**  Wherever two neighbouring expressions of a script are
independent, the run completes exactly if it completes with the two in the other order, and then
both runs end with the same bindings and show the same. -/
theorem run_swap (h : m.Independent n) (arithmetic : Bool) (name : Text)
    (before after : List Node) :
    ((∃ ctx, (Interpreter.mk arithmetic name (before ++ [m, n] ++ after)).run.1 = .ok ctx) ↔
      ∃ ctx, (Interpreter.mk arithmetic name (before ++ [n, m] ++ after)).run.1 = .ok ctx) ∧
    ∀ ctx ctx', (Interpreter.mk arithmetic name (before ++ [m, n] ++ after)).run.1 = .ok ctx →
      (Interpreter.mk arithmetic name (before ++ [n, m] ++ after)).run.1 = .ok ctx' →
      ctx.bindings = ctx'.bindings ∧ ctx.text = ctx'.text := by
  have hiff : ∀ ctx,
      (Interpreter.mk arithmetic name (before ++ [m, n] ++ after)).run.1 = .ok ctx ↔
        (Interpreter.mk arithmetic name (before ++ [n, m] ++ after)).run.1 = .ok ctx := by
    intro ctx
    rw [Interpreter.run_eq_ok_iff, Interpreter.run_eq_ok_iff]
    exact ⟨h.evalAll_swap, h.symm.evalAll_swap⟩
  refine ⟨exists_congr hiff, ?_⟩
  intro ctx ctx' hctx hctx'
  obtain rfl : ctx = ctx' := by
    have hsame := (hiff ctx).1 hctx
    rw [hctx'] at hsame
    exact (Except.ok.inj hsame).symm
  exact ⟨rfl, rfl⟩

/-- `let x = 1 + let y = u`. -/
def declaringSum : Node :=
  .declaration "x" none
    (.binary (.literal (.integer 1) ⟨3, 9⟩) .plus
      (.declaration "y" none (.reference "u" ⟨3, 21⟩) ⟨3, 13⟩) ⟨3, 11⟩)
    ⟨3, 1⟩

/-- `z = u + let w = z`. -/
def reassigningSum : Node :=
  .assignment "z"
    (.binary (.reference "u" ⟨4, 5⟩) .plus
      (.declaration "w" none (.reference "z" ⟨4, 17⟩) ⟨4, 9⟩) ⟨4, 7⟩)
    ⟨4, 1⟩

/-- Two expressions that read the same name, and that write names inside their operands. -/
theorem run_swap_nested :
    let before : List Node := [.declaration "u" none (.literal (.integer 7) ⟨1, 9⟩) ⟨1, 1⟩,
      .declaration "z" none (.literal (.integer 4294967295) ⟨2, 9⟩) ⟨2, 1⟩]
    let after : List Node := [.declaration "v" none (.reference "w" ⟨5, 9⟩) ⟨5, 1⟩]
    declaringSum.Independent reassigningSum ∧
    ∃ ctx ctx',
      (Interpreter.mk true "Root" (before ++ [declaringSum, reassigningSum] ++ after)).run.1
        = .ok ctx ∧
      (Interpreter.mk true "Root" (before ++ [reassigningSum, declaringSum] ++ after)).run.1
        = .ok ctx' ∧
      ctx.bindings.entries = ([("u", .integer 7), ("v", .integer 4294967295),
        ("w", .integer 4294967295), ("x", .integer 8), ("y", .integer 7),
        ("z", .integer 6)] : List (Text × Value)) ∧
      ctx.bindings = ctx'.bindings ∧ ctx.text = ctx'.text := by
  intro before after
  have hindependent : declaringSum.Independent reassigningSum := by decide +kernel
  obtain ⟨hcompletes, hsame⟩ := run_swap hindependent true "Root" before after
  have hrun : (Interpreter.mk true "Root"
      (before ++ [declaringSum, reassigningSum] ++ after)).run.1 = .ok _ :=
    Interpreter.run_eq_ok_iff.2 rfl
  obtain ⟨ctx', hctx'⟩ := hcompletes.1 ⟨_, hrun⟩
  exact ⟨hindependent, _, ctx', hrun, hctx', by decide +kernel, hsame _ ctx' hrun hctx'⟩

end LetScript
