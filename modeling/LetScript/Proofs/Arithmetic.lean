import LetScript.Proofs.Interpreter

/-!
# Evaluation with all four operators

The interpreter evaluates sums only.  What a script means beyond that is said by a second
evaluation, which visits expressions in the interpreter's order and knows all four operators on
unsigned numbers of 32 bits: sums, differences and products wrap around, quotients are rounded
down.  It stops where the interpreter would fail, and also at a quotient by zero, for which it has
no value.

On scripts whose only operator is `+` the two evaluations are the same (`evalArithAll_eq`).
-/

namespace LetScript

/-- Why the evaluation with all four operators stops. -/
inductive Stop where
  /-- The script fails. -/
  | fault (e : RuntimeError)
  /-- A quotient by zero. -/
  | zeroDivisor (location : Location)
deriving DecidableEq

/-- The value of an operation at `l`. -/
def Operator.apply (op : Operator) (l : Location) : Value → Value → Except Stop Value
  | .integer m, .integer n =>
    match op with
    | plus => .ok (.integer (m + n))
    | minus => .ok (.integer (m - n))
    | times => .ok (.integer (m * n))
    | divide => if n = 0 then .error (.zeroDivisor l) else .ok (.integer (m / n))
    | unknown s => .error (.fault ⟨l, .unsupportedOperator (.unknown s)⟩)
  | v, w => .error (.fault ⟨l, .invalidOperands v w⟩)

/-- The value of an expression and the scope behind it, with all four operators. -/
def evalArith : Node → Context → Except Stop (Value × Context)
  | .literal (.integer n) _, ctx => .ok (.integer n, ctx)
  | .literal (.string s) _, ctx => .ok (.string s, ctx)
  | .declaration name _ expr _, ctx =>
    match evalArith expr ctx with
    | .error e => .error e
    | .ok (v, ctx') => .ok (v, ctx'.set name v)
  | .assignment name expr l, ctx =>
    match ctx.get? name with
    | none => .error (.fault ⟨l, .unknownVariable name⟩)
    | some _ =>
      match evalArith expr ctx with
      | .error e => .error e
      | .ok (v, ctx') => .ok (v, ctx'.set name v)
  | .reference name l, ctx =>
    match ctx.get? name with
    | none => .error (.fault ⟨l, .unknownVariable name⟩)
    | some v => .ok (v, ctx)
  | .binary left op right l, ctx =>
    match evalArith left ctx with
    | .error e => .error e
    | .ok (v, ctx₁) =>
      match evalArith right ctx₁ with
      | .error e => .error e
      | .ok (w, ctx₂) =>
        match op.apply l v w with
        | .error e => .error e
        | .ok result => .ok (result, ctx₂)

/-- Evaluate expressions one after the other, with all four operators.  Where the evaluation
stops, the expressions behind the one that stopped it are left. -/
def evalArithAll : List Node → Context → Except (Stop × List Node) Context
  | [], ctx => .ok ctx
  | n :: nodes, ctx =>
    match evalArith n ctx with
    | .error e => .error (e, nodes)
    | .ok (_, ctx') => evalArithAll nodes ctx'

/-! ### Scripts that only add -/

/-- Whether every operator of an expression is `+`. -/
def Node.onlySums : Node → Bool
  | literal _ _ => true
  | binary left op right _ => op = .plus && left.onlySums && right.onlySums
  | declaration _ _ expr _ => expr.onlySums
  | assignment _ expr _ => expr.onlySums
  | reference _ _ => true

lemma Operator.plus_apply (l : Location) (v w : Value) :
    plus.apply l v w = (v.add w).mapError fun f => .fault ⟨l, f⟩ := by
  cases v <;> cases w <;> rfl

/-- On an expression that only adds, both evaluations come to the same. -/
lemma evalArith_eq {n : Node} (h : n.onlySums = true) (ctx : Context) :
    evalArith n ctx = (eval true n ctx).mapError Stop.fault := by
  induction n generalizing ctx with
  | literal v l => cases v <;> rfl
  | declaration name type expr l ih =>
    rw [evalArith, eval, ih h]
    rcases eval true expr ctx with e | ⟨v, ctx'⟩ <;> rfl
  | assignment name expr l ih =>
    rw [evalArith, eval, ih h]
    rcases ctx.get? name with _ | u
    · rfl
    · rcases eval true expr ctx with e | ⟨v, ctx'⟩ <;> rfl
  | reference name l =>
    rw [evalArith, eval]
    rcases ctx.get? name with _ | v <;> rfl
  | binary left op right l ihl ihr =>
    simp only [Node.onlySums, Bool.and_eq_true, decide_eq_true_eq] at h
    obtain ⟨⟨rfl, hl⟩, hr⟩ := h
    rw [evalArith, eval, ihl hl]
    rcases eval true left ctx with e | ⟨v, ctx₁⟩
    · rfl
    · simp only [Except.mapError, ihr hr, Operator.plus_apply]
      rcases eval true right ctx₁ with e | ⟨w, ctx₂⟩
      · rfl
      · simp only [Bool.not_true, Bool.false_eq_true, if_false, ne_eq, not_true_eq_false]
        rcases v.add w with f | sum <;> rfl

/-- **On scripts that only add, both evaluations come to the same**, and if they stop, they stop at
the same expression. -/
theorem evalArithAll_eq {nodes : List Node} (h : ∀ n ∈ nodes, n.onlySums = true) (ctx : Context) :
    evalArithAll nodes ctx
      = (evalAll true nodes ctx).mapError fun (e, rest) => (Stop.fault e, rest) := by
  induction nodes generalizing ctx with
  | nil => rfl
  | cons n nodes ih =>
    have hn : n.onlySums = true := h n List.mem_cons_self
    have hnodes : ∀ m ∈ nodes, m.onlySums = true := fun m hm => h m (List.mem_cons_of_mem n hm)
    rw [evalArithAll, evalAll_cons, evalArith_eq hn]
    rcases eval true n ctx with e | ⟨v, ctx'⟩
    · rfl
    · exact ih hnodes ctx'

end LetScript
