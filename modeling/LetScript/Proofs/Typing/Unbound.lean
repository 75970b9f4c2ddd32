import LetScript.Proofs.Program
import LetScript.Proofs.Typing.Preservation

/-!
# Unbound names in scripts without type errors

With a symbol table, the checker reports every use of a name that has not been declared before.  It
looks the name of an assignment up *behind* the assignment's expression, though, and the run does so
*before* it.  So one failure is left to scripts without type errors: an assignment whose own
expression is the first to declare its name, as in `x = let x = 1`.

The main result, `run_eq_unknownVariable_iff`, says that this is the only one: a run fails with an
unbound name exactly if it comes to such an assignment, and never does if the script has no
assignment whose expression declares its name.
-/

namespace LetScript

/-- The names that an expression declares, at any depth. -/
def Node.declares : Node → List Text
  | literal _ _ => []
  | binary left _ right _ => left.declares ++ right.declares
  | declaration name _ expr _ => name :: expr.declares
  | assignment _ expr _ => expr.declares
  | reference _ _ => []

/-- Whether an expression holds, at any depth, an assignment whose own expression declares the
assigned name. -/
def Node.declaresTarget : Node → Bool
  | literal _ _ => false
  | binary left _ right _ => left.declaresTarget || right.declaresTarget
  | declaration _ _ expr _ => expr.declaresTarget
  | assignment name expr _ => name ∈ expr.declares || expr.declaresTarget
  | reference _ _ => false

/-! ### Names that the checker adds -/

/-- Every name of the second table is a name of the first one or one of `names`. -/
def Adds (names : List Text) (table table' : Bindings Resolution) : Prop :=
  ∀ x r, table'.get? x = some r → x ∈ names ∨ ∃ r', table.get? x = some r'

lemma Adds.insert {names : List Text} {table table' : Bindings Resolution}
    (h : Adds names table table') (name : Text) (r : Resolution) :
    Adds (name :: names) table (table'.insert name r) := by
  intro x r' hx
  rw [Bindings.get?_insert] at hx
  split at hx
  · next heq => exact .inl (by simp [heq])
  · exact (h x r' hx).imp_left (List.mem_cons_of_mem name)

/-- The checker keeps its symbol table, and adds to it what an expression declares. -/
lemma infer_adds (n : Node) (table : Bindings Resolution) :
    ∃ table', (infer (some table) n).scope = some table' ∧ Adds n.declares table table' := by
  induction n generalizing table with
  | literal v l => cases v <;> exact ⟨table, rfl, fun x r hx => .inr ⟨r, hx⟩⟩
  | declaration name type expr l ih =>
    obtain ⟨table₁, hscope, hadds⟩ := ih table
    obtain ⟨r, hr⟩ := infer_declaration_scope (some table) name type expr l
    refine ⟨table₁.insert name r, ?_, hadds.insert name r⟩
    rw [hr, hscope]
    rfl
  | assignment name expr l ih =>
    obtain ⟨table₁, hscope, hadds⟩ := ih table
    refine ⟨table₁, ?_, hadds⟩
    rw [infer]
    rcases hname : table₁.get? name with _ | recorded <;> simp [hscope, hname]
  | reference name l =>
    refine ⟨table, ?_, fun x r hx => .inr ⟨r, hx⟩⟩
    rw [infer]
    rcases table.get? name with _ | recorded <;> rfl
  | binary left op right l ihl ihr =>
    obtain ⟨table₁, hscope₁, hadds₁⟩ := ihl table
    obtain ⟨table₂, hscope₂, hadds₂⟩ := ihr table₁
    refine ⟨table₂, by simp [infer, hscope₁, hscope₂], fun x r hx => ?_⟩
    -- a name that the right operand has not added was there behind the left one
    rcases hadds₂ x r hx with hmem | ⟨r', hr'⟩
    · exact .inl (List.mem_append_right _ hmem)
    · exact (hadds₁ x r' hr').imp_left (List.mem_append_left _)

/-! ### Typed moments -/

/-- A reference without type errors is bound. -/
lemma Moment.Typed.get?_reference {x : Text} {l : Location} {ctx : Context} {scope : Scope}
    (h : Moment.Typed ⟨.reference x l, ctx, scope⟩) : ctx.get? x ≠ none := by
  obtain ⟨⟨r, scope', hpasses⟩, table, rfl, hrel⟩ := h
  obtain ⟨hname, -⟩ := passes_reference_iff.1 hpasses
  intro hx
  have htable : table.get? x = none := hrel.get?_eq_none_iff.1 hx
  simp [htable] at hname

/-- An assignment without type errors to an unbound name declares the name itself. -/
lemma Moment.Typed.mem_declares {x : Text} {expr : Node} {l : Location} {ctx : Context}
    {scope : Scope} (h : Moment.Typed ⟨.assignment x expr l, ctx, scope⟩) (hx : ctx.get? x = none) :
    x ∈ expr.declares := by
  obtain ⟨⟨r, scope', hpasses⟩, table, rfl, hrel⟩ := h
  obtain ⟨hexpr, hassigned⟩ := passes_assignment_iff.1 hpasses
  have htable : table.get? x = none := hrel.get?_eq_none_iff.1 hx
  -- the checker finds the name behind the expression, and it was not there before
  obtain ⟨table₁, hscope, hadds⟩ := infer_adds expr table
  obtain ⟨recorded, hrecorded, -⟩ := hassigned table₁ (hexpr.scope_eq.symm.trans hscope)
  rcases hadds x recorded hrecorded with hmem | ⟨r', hr'⟩
  · exact hmem
  · simp [htable] at hr'

/-! ### Moments inside scripts -/

lemma Enters.declaresTarget {arithmetic : Bool} {m m' : Moment} (h : Enters arithmetic m m')
    (hm : m.node.declaresTarget = false) : m'.node.declaresTarget = false := by
  cases h with
  | declaration => exact hm
  | assignment _ =>
    simp only [Node.declaresTarget, Bool.or_eq_false_iff] at hm
    exact hm.2
  | left _ =>
    simp only [Node.declaresTarget, Bool.or_eq_false_iff] at hm
    exact hm.1
  | right _ _ =>
    simp only [Node.declaresTarget, Bool.or_eq_false_iff] at hm
    exact hm.2

/-! ### Programs -/

/-- A run of a script without type errors fails with an unbound name exactly if it comes to an
assignment to an unbound name, whose expression then declares the name. -/
lemma run_unknownVariable_iff {nodes : List Node} (h : check true nodes = []) (arithmetic : Bool)
    (name : Text) (l : Location) (x : Text) :
    (Interpreter.mk arithmetic name nodes).run.1 = .error ⟨l, .unknownVariable x⟩ ↔
      ∃ expr ctx scope, Reached arithmetic nodes (Context.ofName name) (Scope.initial true)
        ⟨.assignment x expr l, ctx, scope⟩ ∧ ctx.get? x = none ∧ x ∈ expr.declares := by
  rw [check_eq] at h
  rw [run_eq_error_iff (Scope.initial true)]
  constructor
  · rintro ⟨⟨n, ctx, scope⟩, hm, hraises⟩
    have htyped : Moment.Typed ⟨n, ctx, scope⟩ := hm.typed (Agrees.initial name) h
    cases hraises with
    | reference hx => exact absurd hx htyped.get?_reference
    | assignment hx => exact ⟨_, ctx, scope, hm, hx, htyped.mem_declares hx⟩
    | operands _ _ _ hadd =>
      -- a sum fails because of its operands, never because of a name
      nomatch add_eq_error hadd
  · rintro ⟨expr, ctx, scope, hm, hx, -⟩
    exact ⟨_, hm, .assignment hx⟩

/-- **Unbound names in scripts without type errors.**  Let a script compile with a symbol table and
without type errors, whatever the other settings.  Its run fails with an unbound name exactly if it
comes to an assignment to a name that is not bound yet, and then the expression of that assignment
declares the name.  In particular, the run never fails so at a reference, and never at all if no
assignment of the script declares its own name. -/
theorem run_eq_unknownVariable_iff {s : Settings} {script : Text} {p : Program}
    (hsymbols : s.switches.symbolTable = true) (hcompile : compile s script = .ok p)
    (herrors : p.typeErrors = []) :
    (∀ l x, p.run s = .error (.failed ⟨l, .unknownVariable x⟩) ↔
      ∃ expr ctx scope, Reached s.switches.arithmetic p.nodes (Context.ofName s.context)
        (Scope.initial true) ⟨.assignment x expr l, ctx, scope⟩ ∧ ctx.get? x = none ∧
        x ∈ expr.declares) ∧
    ((∀ n ∈ p.nodes, n.declaresTarget = false) →
      ∀ l x, p.run s ≠ .error (.failed ⟨l, .unknownVariable x⟩)) := by
  have hcheck : check true p.nodes = [] := by
    rw [← hsymbols, ← compile_typeErrors hcompile, herrors]
  have hiff : ∀ l x, p.run s = .error (.failed ⟨l, .unknownVariable x⟩) ↔
      ∃ expr ctx scope, Reached s.switches.arithmetic p.nodes (Context.ofName s.context)
        (Scope.initial true) ⟨.assignment x expr l, ctx, scope⟩ ∧ ctx.get? x = none ∧
        x ∈ expr.declares := by
    intro l x
    rw [← run_unknownVariable_iff hcheck, Program.run_eq_failed_iff herrors]
  refine ⟨hiff, ?_⟩
  intro hnodes l x hrun
  obtain ⟨expr, ctx, scope, hm, -, hx⟩ := (hiff l x).1 hrun
  have hfalse := hm.node_induction hnodes Enters.declaresTarget
  simp [Node.declaresTarget, hx] at hfalse

/-- Settings with assignments and a symbol table that do not run programs with type errors. -/
def guarded : Settings where
  switches := { assignments := true, symbolTable := true, gate := true }

/-- The nodes of `let x = let y = 1` and `x = let z = y`. -/
def nested : List Node :=
  [.declaration "x" none (.declaration "y" none (.literal (.integer 1) ⟨1, 17⟩) ⟨1, 9⟩) ⟨1, 1⟩,
    .assignment "x" (.declaration "z" none (.reference "y" ⟨2, 13⟩) ⟨2, 5⟩) ⟨2, 1⟩]

/-- Names that are bound inside other expressions, and an assignment that declares another name than
its own: no name is unbound. -/
theorem run_eq_unknownVariable_iff_nested :
    guarded.switches.symbolTable = true ∧
      ∃ p, compile guarded "let x = let y = 1\nx = let z = y" = .ok p ∧ p.typeErrors = [] ∧
        (∀ n ∈ p.nodes, n.declaresTarget = false) ∧
        ∀ l x, p.run guarded ≠ .error (.failed ⟨l, .unknownVariable x⟩) := by
  have hnested : (compile guarded "let x = let y = 1\nx = let z = y").toOption.map Program.nodes
      = some nested := by decide +kernel
  obtain ⟨p, hp, hnodes, herrors⟩ := exists_compile_eq_ok hnested
  have hnone : p.typeErrors = [] := by
    rw [herrors]
    decide +kernel
  have htarget : ∀ n ∈ p.nodes, n.declaresTarget = false := by
    rw [hnodes]
    decide
  exact ⟨rfl, p, hp, hnone, htarget, (run_eq_unknownVariable_iff rfl hp hnone).2 htarget⟩

/-- The nodes of `x = let x = 1`. -/
def selfDeclaration : List Node :=
  [.assignment "x" (.declaration "x" none (.literal (.integer 1) ⟨1, 13⟩) ⟨1, 5⟩) ⟨1, 1⟩]

/-- `x = let x = 1` has no type errors, but its run fails with `x` unbound. -/
theorem run_selfDeclaration :
    ∃ p, compile guarded "x = let x = 1" = .ok p ∧ p.typeErrors = [] ∧
      p.run guarded = .error (.failed ⟨⟨1, 1⟩, .unknownVariable "x"⟩) := by
  have hself : (compile guarded "x = let x = 1").toOption.map Program.nodes
      = some selfDeclaration := by decide +kernel
  obtain ⟨p, hp, hnodes, herrors⟩ := exists_compile_eq_ok hself
  have hnone : p.typeErrors = [] := by
    rw [herrors]
    decide +kernel
  refine ⟨p, hp, hnone, (Program.run_eq_failed_iff hnone).2 ?_⟩
  rw [hnodes]
  exact Interpreter.run_eq_error_iff.2 ⟨[], rfl⟩

end LetScript
