import LetScript.Interpreter
import LetScript.Proofs.Cursor
import Mathlib.Tactic.Common

/-!
# What an evaluation does

For each kind of expression, what it takes for an evaluation to succeed and what it yields then; and
how the evaluation of a list of expressions splits into those of its parts.  Later proofs use these
facts and do not look into `eval` again, nor into the loop of the interpreter.
-/

namespace LetScript

variable {arithmetic : Bool} {ctx ctx' : Context} {v : Value}

/-! ### Expressions that evaluate -/

/-- Declarations and assignments give a name to the value of their expression. -/
lemma give_eq_ok {x : Except RuntimeError (Value × Context)} {name : Text} :
    (match x with
      | .error e => Except.error e
      | .ok (w, ctx₁) => .ok (w, ctx₁.set name w)) = .ok (v, ctx') ↔
      ∃ ctx₁, x = .ok (v, ctx₁) ∧ ctx' = ctx₁.set name v := by
  rcases x with e | ⟨w, ctx₁⟩
  · simp
  · constructor
    · intro h
      obtain ⟨rfl, rfl⟩ : w = v ∧ ctx₁.set name w = ctx' := by simpa using h
      exact ⟨ctx₁, rfl, rfl⟩
    · rintro ⟨ctx₂, h, rfl⟩
      obtain ⟨rfl, rfl⟩ : w = v ∧ ctx₁ = ctx₂ := by simpa using h
      rfl

lemma eval_declaration_eq_ok {name : Text} {type : Option TypeName} {expr : Node} {l : Location} :
    eval arithmetic (.declaration name type expr l) ctx = .ok (v, ctx') ↔
      ∃ ctx₁, eval arithmetic expr ctx = .ok (v, ctx₁) ∧ ctx' = ctx₁.set name v := by
  rw [eval]
  exact give_eq_ok

/-- The name of an assignment must be bound before its expression is evaluated. -/
lemma eval_assignment_eq_ok {name : Text} {expr : Node} {l : Location} :
    eval arithmetic (.assignment name expr l) ctx = .ok (v, ctx') ↔
      (∃ u, ctx.get? name = some u) ∧
        ∃ ctx₁, eval arithmetic expr ctx = .ok (v, ctx₁) ∧ ctx' = ctx₁.set name v := by
  rw [eval]
  rcases ctx.get? name with _ | u
  · simp
  · simp only [Option.some.injEq, exists_eq', true_and]
    exact give_eq_ok

lemma eval_reference_eq_ok {name : Text} {l : Location} :
    eval arithmetic (.reference name l) ctx = .ok (v, ctx') ↔
      ctx.get? name = some v ∧ ctx' = ctx := by
  rw [eval]
  rcases ctx.get? name with _ | u
  · simp
  · simp only [Except.ok.injEq, Prod.mk.injEq, Option.some.injEq]
    exact and_congr_right fun _ => eq_comm

lemma add_eq_ok {w u : Value} :
    v.add w = .ok u ↔ ∃ m n, v = .integer m ∧ w = .integer n ∧ u = .integer (m + n) := by
  constructor
  · intro h
    rcases v with m | s | _ <;> rcases w with n | t | _ <;> simp [Value.add] at h
    exact ⟨m, n, rfl, rfl, h.symm⟩
  · rintro ⟨m, n, rfl, rfl, rfl⟩
    rfl

lemma add_eq_error {w : Value} {f : Fault} (h : v.add w = .error f) : f = .invalidOperands v w := by
  rcases v with m | s | _ <;> rcases w with n | t | _ <;> simp [Value.add] at h <;> exact h.symm

/-- Sums of numbers are the only binary operations with a value, and only with arithmetic. -/
lemma eval_binary_eq_ok {left right : Node} {op : Operator} {l : Location} :
    eval arithmetic (.binary left op right l) ctx = .ok (v, ctx') ↔
      arithmetic = true ∧ op = .plus ∧
        ∃ m n ctx₁, eval arithmetic left ctx = .ok (.integer m, ctx₁) ∧
          eval arithmetic right ctx₁ = .ok (.integer n, ctx') ∧ v = .integer (m + n) := by
  constructor
  · intro h
    rw [eval] at h
    split at h
    · simp at h
    · next harith =>
      split at h
      · simp at h
      · next hop =>
        rcases hleft : eval arithmetic left ctx with e | ⟨x, ctx₁⟩
        · simp [hleft] at h
        · rcases hright : eval arithmetic right ctx₁ with e | ⟨y, ctx₂⟩
          · simp [hleft, hright] at h
          · rcases hsum : x.add y with f | z
            · simp [hleft, hright, hsum] at h
            · obtain ⟨rfl, rfl⟩ : z = v ∧ ctx₂ = ctx' := by simpa [hleft, hright, hsum] using h
              obtain ⟨m, n, rfl, rfl, rfl⟩ := add_eq_ok.1 hsum
              exact ⟨by simpa using harith, by simpa using hop, m, n, ctx₁, rfl, hright, rfl⟩
  · rintro ⟨rfl, rfl, m, n, ctx₁, hleft, hright, rfl⟩
    simp [eval, hleft, hright, Value.add]

/-! ### Lists of expressions -/

/-- Evaluate expressions one after the other.  A failure comes with the expressions behind the one
that failed. -/
def evalAll (arithmetic : Bool) (nodes : List Node) (ctx : Context) :
    Except (RuntimeError × List Node) Context :=
  Cursor.foldAll (Interpreter.step arithmetic) nodes ctx

@[simp] lemma evalAll_nil (ctx : Context) : evalAll arithmetic [] ctx = .ok ctx := rfl

lemma evalAll_cons (n : Node) (nodes : List Node) (ctx : Context) :
    evalAll arithmetic (n :: nodes) ctx =
      match eval arithmetic n ctx with
      | .error e => .error (e, nodes)
      | .ok (_, ctx') => evalAll arithmetic nodes ctx' := by
  rw [evalAll, Cursor.foldAll, Interpreter.step]
  rcases eval arithmetic n ctx with e | ⟨w, ctx₁⟩ <;> rfl

lemma evalAll_cons_eq_ok {n : Node} {nodes : List Node} :
    evalAll arithmetic (n :: nodes) ctx = .ok ctx' ↔
      ∃ v ctx₁, eval arithmetic n ctx = .ok (v, ctx₁) ∧
        evalAll arithmetic nodes ctx₁ = .ok ctx' := by
  rw [evalAll_cons]
  rcases eval arithmetic n ctx with e | ⟨v, ctx₁⟩ <;> simp

lemma evalAll_append {before after : List Node} {ctx₁ : Context}
    (h : evalAll arithmetic before ctx = .ok ctx₁) :
    evalAll arithmetic (before ++ after) ctx = evalAll arithmetic after ctx₁ :=
  Cursor.foldAll_append h after

lemma evalAll_append_eq_ok {before after : List Node} :
    evalAll arithmetic (before ++ after) ctx = .ok ctx' ↔
      ∃ ctx₁, evalAll arithmetic before ctx = .ok ctx₁ ∧ evalAll arithmetic after ctx₁ = .ok ctx' :=
  Cursor.foldAll_eq_ok_append_iff

lemma Interpreter.step_eq_error_iff {n : Node} {e : RuntimeError} :
    step arithmetic ctx n = .error e ↔ eval arithmetic n ctx = .error e := by
  rw [step]
  rcases eval arithmetic n ctx with e' | ⟨w, ctx₁⟩ <;> simp

/-- An evaluation that fails gets through the expressions before the one it fails at. -/
lemma evalAll_eq_error {nodes rest : List Node} {e : RuntimeError}
    (h : evalAll arithmetic nodes ctx = .error (e, rest)) :
    ∃ before n ctx₁, nodes = before ++ n :: rest ∧ evalAll arithmetic before ctx = .ok ctx₁ ∧
      eval arithmetic n ctx₁ = .error e := by
  obtain ⟨before, n, ctx₁, hnodes, hbefore, hn⟩ := Cursor.foldAll_eq_error h
  exact ⟨before, n, ctx₁, hnodes, hbefore, Interpreter.step_eq_error_iff.1 hn⟩

/-- Conversely, an expression that fails behind others that evaluate ends the evaluation. -/
lemma evalAll_append_cons {before after : List Node} {n : Node} {ctx₁ : Context} {e : RuntimeError}
    (hbefore : evalAll arithmetic before ctx = .ok ctx₁) (hn : eval arithmetic n ctx₁ = .error e) :
    evalAll arithmetic (before ++ n :: after) ctx = .error (e, after) := by
  rw [evalAll_append hbefore, evalAll_cons, hn]

/-! ### The interpreter -/

namespace Interpreter

/-- **A run evaluates what is ahead of the cursor**, and leaves the cursor in front of what it has
not come to. -/
lemma run_eq (i : Interpreter) :
    i.run =
      match evalAll i.arithmetic i.rest (Context.ofName i.contextName) with
      | .ok ctx => (.ok ctx, { i with cursor := i.cursor.moveTo [] })
      | .error (e, rest) => (.error e, { i with cursor := i.cursor.moveTo rest }) := by
  rw [run, Cursor.foldUntil_eq, evalAll, rest]
  rcases Cursor.foldAll (step i.arithmetic) i.cursor.rest (Context.ofName i.contextName) with
    ⟨e, rest⟩ | ctx <;> rfl

@[simp] lemma rest_ofList (arithmetic : Bool) (name : Text) (nodes : List Node) :
    (Interpreter.mk arithmetic name nodes).rest = nodes := rfl

lemma run_eq_ok_iff {name : Text} {nodes : List Node} :
    (Interpreter.mk arithmetic name nodes).run.1 = .ok ctx ↔
      evalAll arithmetic nodes (Context.ofName name) = .ok ctx := by
  rw [run_eq, rest_ofList]
  rcases evalAll arithmetic nodes (Context.ofName name) with ⟨e, rest⟩ | ctx₁ <;> simp

/-- A run that fails leaves the expressions behind the one it failed at. -/
lemma run_of_error {name : Text} {nodes rest : List Node} {e : RuntimeError}
    (h : evalAll arithmetic nodes (Context.ofName name) = .error (e, rest)) :
    (Interpreter.mk arithmetic name nodes).run
      = (.error e, ⟨arithmetic, name, (Cursor.ofList nodes).moveTo rest⟩) := by
  rw [run_eq, rest_ofList, h]

lemma run_eq_error_iff {name : Text} {nodes : List Node} {e : RuntimeError} :
    (Interpreter.mk arithmetic name nodes).run.1 = .error e ↔
      ∃ rest, evalAll arithmetic nodes (Context.ofName name) = .error (e, rest) := by
  rw [run_eq, rest_ofList]
  rcases evalAll arithmetic nodes (Context.ofName name) with ⟨e', rest⟩ | ctx₁ <;> simp

end Interpreter

end LetScript
