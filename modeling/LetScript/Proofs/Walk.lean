import LetScript.Proofs.Interpreter
import LetScript.Proofs.Typing.Checker
import Mathlib.Logic.Relation

/-!
# The moments of a run

A run comes to the expressions of a script one after the other, also to those that stand inside
others, and the type checker comes to them in the same order.  A *moment* is an expression that is
about to be evaluated, with the bindings made so far and with what the checker knows there.  From a
moment the run may *enter* an expression inside, and an expression may *raise* an error of its own.

The main results, `eval_eq_error_iff` and `evalAll_eq_error_iff`, say that a run fails with an error
exactly if it comes to a moment whose expression raises that error.  Facts about all failures are
thereby facts about single moments, proved by an invariant that entering preserves.
-/

namespace LetScript

/-- An expression about to be evaluated. -/
structure Moment where
  /-- The expression. -/
  node : Node
  /-- The bindings made so far. -/
  ctx : Context
  /-- What the checker knows when it comes to the expression. -/
  scope : Scope

variable {arithmetic : Bool} {ctx : Context} {scope : Scope}

/-- From one moment, the evaluation goes on to an expression inside.  The right operand of a sum
comes behind the left one, with the bindings and declarations made there. -/
inductive Enters (arithmetic : Bool) : Moment → Moment → Prop
  | declaration {name : Text} {type : Option TypeName} {expr : Node} {l : Location}
      {ctx : Context} {scope : Scope} :
      Enters arithmetic ⟨.declaration name type expr l, ctx, scope⟩ ⟨expr, ctx, scope⟩
  | assignment {name : Text} {expr : Node} {l : Location} {ctx : Context} {scope : Scope}
      {u : Value} (hname : ctx.get? name = some u) :
      Enters arithmetic ⟨.assignment name expr l, ctx, scope⟩ ⟨expr, ctx, scope⟩
  | left {left right : Node} {l : Location} {ctx : Context} {scope : Scope}
      (harith : arithmetic = true) :
      Enters arithmetic ⟨.binary left .plus right l, ctx, scope⟩ ⟨left, ctx, scope⟩
  | right {left right : Node} {l : Location} {ctx ctx₁ : Context} {scope : Scope} {v : Value}
      (harith : arithmetic = true) (hleft : eval arithmetic left ctx = .ok (v, ctx₁)) :
      Enters arithmetic ⟨.binary left .plus right l, ctx, scope⟩
        ⟨right, ctx₁, (infer scope left).scope⟩

/-- The expression raises an error of its own, one that does not come from inside it. -/
inductive Raises (arithmetic : Bool) (ctx : Context) : Node → RuntimeError → Prop
  | reference {name : Text} {l : Location} (hname : ctx.get? name = none) :
      Raises arithmetic ctx (.reference name l) ⟨l, .unknownVariable name⟩
  | assignment {name : Text} {expr : Node} {l : Location} (hname : ctx.get? name = none) :
      Raises arithmetic ctx (.assignment name expr l) ⟨l, .unknownVariable name⟩
  | uninterpretable {left right : Node} {op : Operator} {l : Location}
      (harith : arithmetic = false) :
      Raises arithmetic ctx (.binary left op right l) ⟨l, .uninterpretable⟩
  | operator {left right : Node} {op : Operator} {l : Location} (harith : arithmetic = true)
      (hop : op ≠ .plus) :
      Raises arithmetic ctx (.binary left op right l) ⟨l, .unsupportedOperator op⟩
  | operands {left right : Node} {l : Location} {ctx₁ ctx₂ : Context} {v w : Value} {f : Fault}
      (harith : arithmetic = true) (hleft : eval arithmetic left ctx = .ok (v, ctx₁))
      (hright : eval arithmetic right ctx₁ = .ok (w, ctx₂)) (hadd : v.add w = .error f) :
      Raises arithmetic ctx (.binary left .plus right l) ⟨l, f⟩

/-! ### Expressions that fail -/

lemma Raises.eval_eq {n : Node} {e : RuntimeError} (h : Raises arithmetic ctx n e) :
    eval arithmetic n ctx = .error e := by
  cases h with
  | reference hname => rw [eval, hname]
  | assignment hname => rw [eval, hname]
  | uninterpretable harith => simp [eval, harith]
  | operator harith hop => simp [eval, harith, hop]
  | operands harith hleft hright hadd =>
    subst harith
    simp [eval, hleft, hright, hadd]

/-- An error inside an expression is an error of the expression. -/
lemma Enters.eval_eq {m m' : Moment} (h : Enters arithmetic m m') {e : RuntimeError}
    (he : eval arithmetic m'.node m'.ctx = .error e) : eval arithmetic m.node m.ctx = .error e := by
  cases h with
  | declaration =>
    rw [eval]
    simp only at he
    rw [he]
  | assignment hname =>
    simp only at he
    simp [eval, hname, he]
  | left harith =>
    subst harith
    simp only at he
    simp [eval, he]
  | right harith hleft =>
    subst harith
    simp only at he
    simp [eval, hleft, he]

/-- An evaluation that fails comes to an expression that raises the error. -/
lemma exists_raises_of_eval_eq_error (n : Node) (ctx : Context) (scope : Scope) {e : RuntimeError}
    (h : eval arithmetic n ctx = .error e) :
    ∃ m, Relation.ReflTransGen (Enters arithmetic) ⟨n, ctx, scope⟩ m ∧
      Raises arithmetic m.ctx m.node e := by
  induction n generalizing ctx scope with
  | literal v l => cases v <;> simp [eval] at h
  | declaration name type expr l ih =>
    have hexpr : eval arithmetic expr ctx = .error e := by
      rw [eval] at h
      rcases hexpr : eval arithmetic expr ctx with e' | ⟨v, ctx'⟩ <;> simp [hexpr] at h
      rw [h]
    obtain ⟨m, hm, hraises⟩ := ih ctx scope hexpr
    exact ⟨m, hm.head .declaration, hraises⟩
  | assignment name expr l ih =>
    rcases hname : ctx.get? name with _ | u
    · obtain rfl : ⟨l, .unknownVariable name⟩ = e := by simpa [eval, hname] using h
      exact ⟨_, .refl, .assignment hname⟩
    · have hexpr : eval arithmetic expr ctx = .error e := by
        rw [eval, hname] at h
        rcases hexpr : eval arithmetic expr ctx with e' | ⟨v, ctx'⟩ <;> simp [hexpr] at h
        rw [h]
      obtain ⟨m, hm, hraises⟩ := ih ctx scope hexpr
      exact ⟨m, hm.head (.assignment hname), hraises⟩
  | reference name l =>
    rcases hname : ctx.get? name with _ | u
    · obtain rfl : ⟨l, .unknownVariable name⟩ = e := by simpa [eval, hname] using h
      exact ⟨_, .refl, .reference hname⟩
    · simp [eval, hname] at h
  | binary left op right l ihl ihr =>
    cases arithmetic with
    | false =>
      obtain rfl : ⟨l, .uninterpretable⟩ = e := by simpa [eval] using h
      exact ⟨_, .refl, .uninterpretable rfl⟩
    | true =>
      by_cases hop : op = .plus
      · subst hop
        rcases hleft : eval true left ctx with e' | ⟨v, ctx₁⟩
        · obtain rfl : e' = e := by simpa [eval, hleft] using h
          obtain ⟨m, hm, hraises⟩ := ihl ctx scope hleft
          exact ⟨m, hm.head (.left rfl), hraises⟩
        · -- the right operand is entered with what the left one has bound and declared
          rcases hright : eval true right ctx₁ with e' | ⟨w, ctx₂⟩
          · obtain rfl : e' = e := by simpa [eval, hleft, hright] using h
            obtain ⟨m, hm, hraises⟩ := ihr ctx₁ (infer scope left).scope hright
            exact ⟨m, hm.head (.right rfl hleft), hraises⟩
          · rcases hadd : v.add w with f | u
            · obtain rfl : ⟨l, f⟩ = e := by simpa [eval, hleft, hright, hadd] using h
              exact ⟨_, .refl, .operands rfl hleft hright hadd⟩
            · simp [eval, hleft, hright, hadd] at h
      · obtain rfl : ⟨l, .unsupportedOperator op⟩ = e := by simpa [eval, hop] using h
        exact ⟨_, .refl, .operator rfl hop⟩

/-- **An evaluation fails exactly if it comes to an expression that raises the error.** -/
theorem eval_eq_error_iff {m : Moment} {e : RuntimeError} :
    eval arithmetic m.node m.ctx = .error e ↔
      ∃ m', Relation.ReflTransGen (Enters arithmetic) m m' ∧ Raises arithmetic m'.ctx m'.node e := by
  constructor
  · exact exists_raises_of_eval_eq_error m.node m.ctx m.scope
  · rintro ⟨m', hm, hraises⟩
    induction hm using Relation.ReflTransGen.head_induction_on with
    | refl => exact hraises.eval_eq
    | head henters _ ih => exact henters.eval_eq ih

/-! ### Scripts that fail -/

/-- The moments of the run of a script: those before its expressions, as long as the ones before
evaluate, and those inside. -/
inductive Reached (arithmetic : Bool) (nodes : List Node) (ctx : Context) (scope : Scope) :
    Moment → Prop
  | before {before after : List Node} {n : Node} {ctx₁ : Context}
      (hnodes : nodes = before ++ n :: after)
      (hbefore : evalAll arithmetic before ctx = .ok ctx₁) :
      Reached arithmetic nodes ctx scope ⟨n, ctx₁, (inferAll scope before).1⟩
  | inside {m m' : Moment} (hm : Reached arithmetic nodes ctx scope m)
      (henters : Enters arithmetic m m') : Reached arithmetic nodes ctx scope m'

lemma Reached.trans {nodes : List Node} {m m' : Moment} (h : Reached arithmetic nodes ctx scope m)
    (hm : Relation.ReflTransGen (Enters arithmetic) m m') :
    Reached arithmetic nodes ctx scope m' := by
  induction hm with
  | refl => exact h
  | tail _ henters ih => exact .inside ih henters

/-- What is true of the expressions of a script and is inherited by the expressions inside is true
wherever the run comes to. -/
lemma Reached.node_induction {P : Node → Prop} {nodes : List Node} {m : Moment}
    (h : Reached arithmetic nodes ctx scope m) (hnodes : ∀ n ∈ nodes, P n)
    (henters : ∀ {m m'}, Enters arithmetic m m' → P m.node → P m'.node) : P m.node := by
  induction h with
  | before hsplit _ => exact hnodes _ (by simp [hsplit])
  | inside _ hm ih => exact henters hm ih

/-- An expression that fails anywhere in a run ends the run. -/
lemma Reached.evalAll_eq {nodes : List Node} {m : Moment} (h : Reached arithmetic nodes ctx scope m)
    {e : RuntimeError} (he : eval arithmetic m.node m.ctx = .error e) :
    ∃ rest, evalAll arithmetic nodes ctx = .error (e, rest) := by
  induction h with
  | @before before after n ctx₁ hnodes hbefore =>
    subst hnodes
    exact ⟨after, evalAll_append_cons hbefore he⟩
  | inside _ henters ih => exact ih (henters.eval_eq he)

/-- **A run fails exactly if it comes to an expression that raises the error.** -/
theorem evalAll_eq_error_iff {nodes : List Node} (scope : Scope) {e : RuntimeError} :
    (∃ rest, evalAll arithmetic nodes ctx = .error (e, rest)) ↔
      ∃ m, Reached arithmetic nodes ctx scope m ∧ Raises arithmetic m.ctx m.node e := by
  constructor
  · rintro ⟨rest, h⟩
    obtain ⟨before, n, ctx₁, hnodes, hbefore, hn⟩ := evalAll_eq_error h
    let start : Moment := ⟨n, ctx₁, (inferAll scope before).1⟩
    obtain ⟨m, hm, hraises⟩ := (eval_eq_error_iff (m := start)).1 hn
    exact ⟨m, (Reached.before hnodes hbefore).trans hm, hraises⟩
  · rintro ⟨m, hm, hraises⟩
    exact hm.evalAll_eq hraises.eval_eq

/-- The same for the interpreter, whose runs start without bindings. -/
lemma run_eq_error_iff {name : Text} {nodes : List Node} (scope : Scope) {e : RuntimeError} :
    (Interpreter.mk arithmetic name nodes).run.1 = .error e ↔
      ∃ m, Reached arithmetic nodes (Context.ofName name) scope m ∧
        Raises arithmetic m.ctx m.node e := by
  rw [← evalAll_eq_error_iff, Interpreter.run_eq_error_iff]

end LetScript
