import LetScript.Proofs.Bindings
import LetScript.Proofs.Walk

/-!
# Values have the types that the checker gives them

With a symbol table, the checker records a type for every name that the interpreter binds, and the
two tables stay in step: the invariant `Agrees` says that they have the same names and that every
value is of the recorded type.  An expression without type errors keeps the invariant, and if it
evaluates, its value is of the type that the checker resolved it to (`hasType_of_eval`).  Since
every moment of a run inherits the invariant, sums of values of different types never come up.
-/

namespace LetScript

/-- The value is of the type that the checker resolved an expression to. -/
inductive HasType : Value → Resolution → Prop
  | integer (n : UInt32) : HasType (.integer n) (.known .integer)
  | string (s : Text) : HasType (.string s) (.known .string)

lemma HasType.exists_known {v : Value} {r : Resolution} (h : HasType v r) : ∃ t, r = .known t := by
  cases h <;> exact ⟨_, rfl⟩

/-- The checker has a symbol table with the same names as the scope of the run, and every name is
bound to a value of its recorded type. -/
def Agrees (ctx : Context) (scope : Scope) : Prop :=
  ∃ table, scope = some table ∧ Bindings.Rel HasType ctx.bindings table

lemma Agrees.initial (name : Text) : Agrees (Context.ofName name) (Scope.initial true) :=
  ⟨∅, rfl, Bindings.Rel.empty⟩

/-- Declaring a name with the type of the value that it is bound to. -/
lemma Agrees.declare {ctx : Context} {scope : Scope} (h : Agrees ctx scope) (name : Text)
    {v : Value} {r : Resolution} (hv : HasType v r) :
    Agrees (ctx.set name v) (scope.declare name r) := by
  obtain ⟨table, rfl, hrel⟩ := h
  exact ⟨table.insert name r, rfl, hrel.insert name hv⟩

/-! ### Preservation -/

/-- **Preservation.**  If an expression without type errors evaluates, its value is of the type that
the checker resolved it to, and the tables agree again behind it. -/
theorem hasType_of_eval {arithmetic : Bool} {n : Node} {ctx ctx' : Context} {scope scope' : Scope}
    {v : Value} {r : Resolution} (hagrees : Agrees ctx scope) (hpasses : Passes scope n r scope')
    (heval : eval arithmetic n ctx = .ok (v, ctx')) : HasType v r ∧ Agrees ctx' scope' := by
  induction n generalizing ctx ctx' scope scope' v r with
  | literal value l =>
    cases value with
    | integer k =>
      obtain ⟨rfl, rfl⟩ : .integer k = v ∧ ctx = ctx' := by simpa [eval] using heval
      obtain ⟨rfl, rfl, -⟩ := Inference.mk.inj hpasses
      exact ⟨.integer k, hagrees⟩
    | string s =>
      obtain ⟨rfl, rfl⟩ : .string s = v ∧ ctx = ctx' := by simpa [eval] using heval
      obtain ⟨rfl, rfl, -⟩ := Inference.mk.inj hpasses
      exact ⟨.string s, hagrees⟩
  | declaration name type expr l ih =>
    obtain ⟨ctx₁, hexpr, rfl⟩ := eval_declaration_eq_ok.1 heval
    obtain ⟨a, scope₁, hpasses₁, hdeclares, rfl⟩ := passes_declaration_iff.1 hpasses
    obtain ⟨hv, hagrees₁⟩ := ih hagrees hpasses₁ hexpr
    -- the expression has a type, so a written type is the same
    obtain ⟨t, rfl⟩ := hv.exists_known
    obtain ⟨rfl, -⟩ := declares_known_iff.1 hdeclares
    exact ⟨hv, hagrees₁.declare name hv⟩
  | assignment name expr l ih =>
    obtain ⟨-, ctx₁, hexpr, rfl⟩ := eval_assignment_eq_ok.1 heval
    obtain ⟨hpasses₁, hassigned⟩ := passes_assignment_iff.1 hpasses
    obtain ⟨hv, table, rfl, hrel⟩ := ih hagrees hpasses₁ hexpr
    obtain ⟨recorded, hrecorded, hsame⟩ := hassigned table rfl
    -- a recorded name is bound, so its recorded type is one of the two
    obtain ⟨u, -, hu⟩ := hrel.get?_right hrecorded
    obtain ⟨d, rfl⟩ := hu.exists_known
    obtain ⟨t, rfl⟩ := hv.exists_known
    obtain rfl : d = t := hsame d t rfl rfl
    exact ⟨hv, table, rfl, hrel.insert_left hrecorded hv⟩
  | reference name l =>
    obtain ⟨hname, rfl⟩ := eval_reference_eq_ok.1 heval
    obtain ⟨table, rfl, hrel⟩ := hagrees
    obtain ⟨recorded, hrecorded, hv⟩ := hrel.get?_left hname
    obtain ⟨hr, rfl⟩ := passes_reference_iff.1 hpasses
    obtain rfl : recorded = r := Option.some.inj (hrecorded.symm.trans hr)
    exact ⟨hv, table, rfl, hrel⟩
  | binary left op right l ihl ihr =>
    -- the sum has a value, so both operands are numbers, and the checker knows that
    obtain ⟨harith, rfl, m, k, ctx₁, hleft, hright, rfl⟩ := eval_binary_eq_ok.1 heval
    obtain ⟨a, b, scope₁, hpassesl, hpassesr, hjoin⟩ := passes_binary_iff.1 hpasses
    obtain ⟨hm, hagrees₁⟩ := ihl hagrees hpassesl hleft
    obtain ⟨hk, hagrees₂⟩ := ihr hagrees₁ hpassesr hright
    cases hm
    cases hk
    obtain ⟨-, rfl⟩ := joinOperands_known_iff.1 hjoin
    exact ⟨.integer _, hagrees₂⟩

/-! ### The moments of a run -/

/-- The expression of a moment has no type errors, and the tables agree there. -/
structure Moment.Typed (m : Moment) : Prop where
  passes : ∃ r scope', Passes m.scope m.node r scope'
  agrees : Agrees m.ctx m.scope

/-- Every expression inside a typed one is typed when the run enters it. -/
lemma Enters.typed {arithmetic : Bool} {m m' : Moment} (h : Enters arithmetic m m')
    (hm : m.Typed) : m'.Typed := by
  obtain ⟨⟨r, scope', hpasses⟩, hagrees⟩ := hm
  cases h with
  | declaration =>
    obtain ⟨a, scope₁, hexpr, -⟩ := passes_declaration_iff.1 hpasses
    exact ⟨⟨a, scope₁, hexpr⟩, hagrees⟩
  | assignment _ =>
    obtain ⟨hexpr, -⟩ := passes_assignment_iff.1 hpasses
    exact ⟨⟨r, scope', hexpr⟩, hagrees⟩
  | left _ =>
    obtain ⟨a, b, scope₁, hleft, -⟩ := passes_binary_iff.1 hpasses
    exact ⟨⟨a, scope₁, hleft⟩, hagrees⟩
  | right _ hleft =>
    obtain ⟨a, b, scope₁, hpassesl, hpassesr, -⟩ := passes_binary_iff.1 hpasses
    have hagrees₁ : Agrees _ scope₁ := (hasType_of_eval hagrees hpassesl hleft).2
    rw [← hpassesl.scope_eq] at hpassesr hagrees₁
    exact ⟨⟨b, scope', hpassesr⟩, hagrees₁⟩

/-- A script without type errors keeps the tables in step. -/
lemma agrees_of_evalAll {arithmetic : Bool} {nodes : List Node} {ctx ctx' : Context}
    {scope scope' : Scope} (hagrees : Agrees ctx scope)
    (hpasses : inferAll scope nodes = (scope', []))
    (heval : evalAll arithmetic nodes ctx = .ok ctx') : Agrees ctx' scope' := by
  induction nodes generalizing ctx scope with
  | nil =>
    obtain rfl : ctx = ctx' := Except.ok.inj heval
    obtain ⟨rfl, -⟩ := Prod.mk.inj hpasses
    exact hagrees
  | cons n nodes ih =>
    obtain ⟨r, scope₁, hn, hnodes⟩ := inferAll_cons_eq_nil_iff.1 hpasses
    obtain ⟨v, ctx₁, hv, hrest⟩ := evalAll_cons_eq_ok.1 heval
    exact ih (hasType_of_eval hagrees hn hv).2 hnodes hrest

/-- **Every moment of the run of a script without type errors is typed.** -/
theorem Reached.typed {arithmetic : Bool} {nodes : List Node} {ctx : Context} {scope : Scope}
    {m : Moment} (h : Reached arithmetic nodes ctx scope m) (hagrees : Agrees ctx scope)
    (herrors : (inferAll scope nodes).2 = []) : m.Typed := by
  induction h with
  | @before before after n ctx₁ hnodes hbefore =>
    subst hnodes
    -- the errors of the script are those of its expressions, one after the other
    rw [inferAll_append, List.append_eq_nil_iff, inferAll, List.append_eq_nil_iff] at herrors
    obtain ⟨hpre, hn, -⟩ := herrors
    exact ⟨exists_passes_iff.2 hn, agrees_of_evalAll hagrees (Prod.ext rfl hpre) hbefore⟩
  | inside _ henters ih => exact henters.typed ih

/-- In a typed sum, operands that cannot be added are strings. -/
lemma Moment.Typed.strings_of_add_eq_error {arithmetic : Bool} {left right : Node} {l : Location}
    {ctx ctx₁ ctx₂ : Context} {scope : Scope} {v w : Value} {f : Fault}
    (h : Moment.Typed ⟨.binary left .plus right l, ctx, scope⟩)
    (hleft : eval arithmetic left ctx = .ok (v, ctx₁))
    (hright : eval arithmetic right ctx₁ = .ok (w, ctx₂)) (hadd : v.add w = .error f) :
    ∃ s t, v = .string s ∧ w = .string t := by
  obtain ⟨⟨r, scope', hpasses⟩, hagrees⟩ := h
  obtain ⟨a, b, scope₁, hpassesl, hpassesr, hjoin⟩ := passes_binary_iff.1 hpasses
  obtain ⟨hv, hagrees₁⟩ := hasType_of_eval hagrees hpassesl hleft
  obtain ⟨hw, -⟩ := hasType_of_eval hagrees₁ hpassesr hright
  cases hv with
  | integer m =>
    cases hw with
    | integer k => simp [Value.add] at hadd
    | string t => cases (joinOperands_known_iff.1 hjoin).1
  | string s =>
    cases hw with
    | integer k => cases (joinOperands_known_iff.1 hjoin).1
    | string t => exact ⟨s, t, rfl, rfl⟩

/-- **Type preservation.**  Let a script have no type errors when it is checked with a symbol table.
Whenever its run comes to an expression and the expression evaluates, the value is of the type that
the checker resolved the expression to.  If the run completes, it binds the names of the final
symbol table, each to a value of its recorded type.  If it fails because of the operands of a sum,
both of them are strings. -/
theorem run_preserves_types {nodes : List Node} (h : check true nodes = []) (arithmetic : Bool)
    (name : Text) :
    (∀ m v ctx', Reached arithmetic nodes (Context.ofName name) (Scope.initial true) m →
      eval arithmetic m.node m.ctx = .ok (v, ctx') → HasType v (infer m.scope m.node).type) ∧
    (∀ ctx, (Interpreter.mk arithmetic name nodes).run.1 = .ok ctx →
      ∃ table, (Checker.ofNodes true nodes).run.2.scope = some table ∧ ctx.names = table.names ∧
        ∀ x r, table.get? x = some r → ∃ v, ctx.get? x = some v ∧ HasType v r) ∧
    (∀ l v w, (Interpreter.mk arithmetic name nodes).run.1 = .error ⟨l, .invalidOperands v w⟩ →
      ∃ s t, v = .string s ∧ w = .string t) := by
  have hinitial : Agrees (Context.ofName name) (Scope.initial true) := Agrees.initial name
  rw [check_eq] at h
  refine ⟨?_, ?_, ?_⟩
  · intro m v ctx' hm hv
    obtain ⟨⟨r, scope', hpasses⟩, hagrees⟩ := hm.typed hinitial h
    rw [hpasses.type_eq]
    exact (hasType_of_eval hagrees hpasses hv).1
  · intro ctx hctx
    have heval : evalAll arithmetic nodes (Context.ofName name) = .ok ctx :=
      Interpreter.run_eq_ok_iff.1 hctx
    obtain ⟨table, htable, hrel⟩ := agrees_of_evalAll hinitial (Prod.ext rfl h) heval
    exact ⟨table, (Checker.scope_run_ofNodes true nodes).trans htable, hrel.names_eq,
      fun x r hx => hrel.get?_right hx⟩
  · intro l v w hrun
    obtain ⟨m, hm, hraises⟩ := (run_eq_error_iff (Scope.initial true)).1 hrun
    have htyped := hm.typed hinitial h
    obtain ⟨n, ctx, scope⟩ := m
    cases hraises with
    | operands _ hleft hright hadd =>
      obtain ⟨rfl, rfl⟩ := Fault.invalidOperands.inj (add_eq_error hadd)
      exact htyped.strings_of_add_eq_error hleft hright hadd

/-- `let x = let y = 1`, `let x: String = "a"` and `x = let x = "b"`. -/
def redeclarations : List Node :=
  [.declaration "x" none (.declaration "y" none (.literal (.integer 1) ⟨1, 17⟩) ⟨1, 9⟩) ⟨1, 1⟩,
    .declaration "x" (some ⟨"String", ⟨2, 8⟩⟩) (.literal (.string "a") ⟨2, 17⟩) ⟨2, 1⟩,
    .assignment "x" (.declaration "x" none (.literal (.string "b") ⟨3, 13⟩) ⟨3, 5⟩) ⟨3, 1⟩]

/-- A name that is declared again with another type: the symbol table and the bindings follow. -/
theorem run_preserves_types_redeclarations :
    check true redeclarations = [] ∧
      ∃ ctx table, (Interpreter.mk false "Root" redeclarations).run.1 = .ok ctx ∧
        (Checker.ofNodes true redeclarations).run.2.scope = some table ∧
        table.entries
          = ([("x", .known .string), ("y", .known .integer)] : List (Text × Resolution)) ∧
        ctx.names = table.names ∧
        ∀ x r, table.get? x = some r → ∃ v, ctx.get? x = some v ∧ HasType v r := by
  have h : check true redeclarations = [] := by decide +kernel
  have hrun : ∃ ctx, (Interpreter.mk false "Root" redeclarations).run.1 = .ok ctx :=
    ⟨_, Interpreter.run_eq_ok_iff.2 rfl⟩
  obtain ⟨ctx, hctx⟩ := hrun
  obtain ⟨-, hok, -⟩ := run_preserves_types h false "Root"
  obtain ⟨table, htable, hnames, htypes⟩ := hok ctx hctx
  refine ⟨h, ctx, table, hctx, htable, ?_, hnames, htypes⟩
  rw [Checker.scope_run_ofNodes] at htable
  cases htable
  decide +kernel

end LetScript
