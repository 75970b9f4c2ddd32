import LetScript.Proofs.Llvm.Meaning
import LetScript.Proofs.Walk

/-!
# The interpreter and the lowering agree

On scripts whose only operator is `+`, running a script and lowering it go through or fail together.
Where they fail, they do so at the same expression, at the same place and for the same cause; where
they go through, they bind the same names, and every name to an operand that denotes its value.
-/

namespace LetScript

/-! ### Failures of scripts that only add -/

lemma Enters.onlySums {arithmetic : Bool} {m m' : Moment} (h : Enters arithmetic m m')
    (hm : m.node.onlySums = true) : m'.node.onlySums = true := by
  cases h with
  | declaration => exact hm
  | assignment _ => exact hm
  | left _ =>
    simp only [Node.onlySums, Bool.and_eq_true] at hm
    exact hm.1.2
  | right _ _ =>
    simp only [Node.onlySums, Bool.and_eq_true] at hm
    exact hm.2

/-- With arithmetic, an expression that only adds can raise two kinds of errors. -/
lemma Raises.cause {ctx : Context} {n : Node} {e : RuntimeError} (h : Raises true ctx n e)
    (hn : n.onlySums = true) :
    e.fault.cause = .unknownVariable ∨ e.fault.cause = .invalidOperands := by
  cases h with
  | reference _ => exact .inl rfl
  | assignment _ => exact .inl rfl
  | uninterpretable harith => simp at harith
  | operator _ hop => simp [Node.onlySums, hop] at hn
  | operands _ _ _ hadd =>
    rw [add_eq_error hadd]
    exact .inr rfl

namespace Llvm

/-! ### Agreement -/

/-- On a script that only adds, running and lowering go through together or fail together. -/
lemma evalAll_lowerAll {nodes : List Node} (h : ∀ n ∈ nodes, n.onlySums = true) (name : Text) :
    (∃ ctx d r, evalAll true nodes (Context.ofName name) = .ok ctx ∧
      lowerAll nodes Draft.empty = .ok d ∧ Tracks ctx d r) ∨
    ∃ e e' rest, evalAll true nodes (Context.ofName name) = .error (e, rest) ∧
      lowerAll nodes Draft.empty = .error (e', rest) ∧ e.location = e'.location ∧
      e.fault.cause = e'.fault.cause := by
  have hsim : SimulatesAll (evalArithAll nodes (Context.ofName name))
      (lowerAll nodes Draft.empty) := lowerAll_simulates (Tracks.empty name)
  rw [evalArithAll_eq h] at hsim
  generalize lowerAll nodes Draft.empty = y at hsim ⊢
  generalize evalAll true nodes (Context.ofName name) = x at hsim ⊢
  rcases x with ⟨e, rest⟩ | ctx
  · cases hsim with
    | fault _ hlocation hcause => exact .inr ⟨e, _, rest, rfl, rfl, hlocation, hcause⟩
  · cases hsim with
    | ok htracks => exact .inl ⟨ctx, _, _, rfl, rfl, htracks⟩

/-- **The interpreter and the lowering agree on scripts that only add.**  The run completes if and
only if the lowering succeeds.  If both fail, they get through the same expressions and fail at the
next one, at the same place and for the same cause, an unbound name or operands that are not
numbers.  If both succeed, they bind the same names, and after a run of the module each name's
operand denotes the value that the interpreter binds the name to. -/
theorem interpreter_lowering_agree (name : Text) {nodes : List Node}
    (h : ∀ n ∈ nodes, n.onlySums = true) :
    ((∃ ctx, (Interpreter.mk true name nodes).run.1 = .ok ctx) ↔
      ∃ m, (Generator.mk nodes).run.1 = .ok m) ∧
    (∀ e e', (Interpreter.mk true name nodes).run.1 = .error e →
      (Generator.mk nodes).run.1 = .error e' →
      (∃ before n rest ctx d, nodes = before ++ n :: rest ∧
        evalAll true before (Context.ofName name) = .ok ctx ∧ eval true n ctx = .error e ∧
        lowerAll before Draft.empty = .ok d ∧ lower n d = .error e' ∧
        (Interpreter.mk true name nodes).run.2.rest = rest ∧
        (Generator.mk nodes).run.2.rest = rest) ∧
      e.location = e'.location ∧ e.fault.cause = e'.fault.cause ∧
      (e.fault.cause = .unknownVariable ∨ e.fault.cause = .invalidOperands)) ∧
    (∀ ctx m, (Interpreter.mk true name nodes).run.1 = .ok ctx →
      (Generator.mk nodes).run.1 = .ok m →
      ∃ d s, lowerAll nodes Draft.empty = .ok d ∧ d.finish = m ∧ m.run = some s ∧
        ctx.names = d.values.names ∧
        ∀ x v, ctx.get? x = some v →
          ∃ o, d.values.get? x = some o ∧ Denotes m.globals s.registers v o) := by
  rcases evalAll_lowerAll h name with
    ⟨ctx, d, r, heval, hlower, htracks⟩ | ⟨e, e', rest, heval, hlower, hlocation, hcause⟩
  · -- both go through, so nothing is to be shown about failures
    have hrun : (Interpreter.mk true name nodes).run.1 = .ok ctx :=
      Interpreter.run_eq_ok_iff.2 heval
    have hlowered : (Generator.mk nodes).run.1 = .ok d.finish :=
      Generator.run_eq_ok_iff.2 ⟨d, hlower, rfl⟩
    rw [hrun, hlowered]
    refine ⟨by simp, by simp, ?_⟩
    intro ctx' m hctx hm
    obtain rfl : ctx = ctx' := Except.ok.inj hctx
    obtain rfl : d.finish = m := Except.ok.inj hm
    obtain ⟨prints, calls, -, -, hexec, -⟩ := htracks.run_finish
    refine ⟨d, _, hlower, rfl, hexec, htracks.values.names_eq, fun x v hx => ?_⟩
    rw [globals_finish]
    exact htracks.values.get?_left hx
  · have hrun := Interpreter.run_of_error heval
    have hlowered := Generator.run_of_error hlower
    obtain ⟨m, hm, hraises⟩ := (run_eq_error_iff none).1 (congrArg Prod.fst hrun)
    have hkind := hraises.cause (hm.node_induction h Enters.onlySums)
    rw [hrun, hlowered]
    refine ⟨by simp, ?_, by simp⟩
    intro e₁ e₂ he₁ he₂
    obtain rfl : e = e₁ := Except.error.inj he₁
    obtain rfl : e' = e₂ := Except.error.inj he₂
    obtain ⟨before, n, ctx, rfl, hbefore, hn⟩ := evalAll_eq_error heval
    obtain ⟨before', n', d, hnodes, hbefore', hn'⟩ := lowerAll_eq_error hlower
    -- what is left is the same, so the two walks stopped at the same expression
    obtain ⟨rfl, hcons⟩ := List.append_inj' hnodes rfl
    obtain ⟨rfl, -⟩ := List.cons.inj hcons
    exact ⟨⟨before, n, rest, ctx, d, rfl, hbefore, hn, hbefore', hn', rfl, rfl⟩, hlocation, hcause,
      hkind⟩

/-- `let x = 1 + let y = 4294967295`, `x = x + y` and `let s = "hi"`. -/
def sums : List Node :=
  [.declaration "x" none
      (.binary (.literal (.integer 1) ⟨1, 9⟩) .plus
        (.declaration "y" none (.literal (.integer 4294967295) ⟨1, 21⟩) ⟨1, 13⟩) ⟨1, 11⟩) ⟨1, 1⟩,
    .assignment "x" (.binary (.reference "x" ⟨2, 5⟩) .plus (.reference "y" ⟨2, 9⟩) ⟨2, 7⟩) ⟨2, 1⟩,
    .declaration "s" none (.literal (.string "hi") ⟨3, 9⟩) ⟨3, 1⟩]

/-- A declaration inside a sum, an assignment and a string: the lowering goes through as the run
does, and the operand of `x` denotes the sum, which has wrapped around. -/
theorem interpreter_lowering_agree_sums :
    (∀ n ∈ sums, n.onlySums = true) ∧
      ∃ d s, lowerAll sums Draft.empty = .ok d ∧ d.finish.run = some s ∧
        ∃ o, d.values.get? "x" = some o ∧
          Denotes d.finish.globals s.registers (.integer 4294967295) o := by
  have h : ∀ n ∈ sums, n.onlySums = true := by decide
  obtain ⟨hiff, -, hok⟩ := interpreter_lowering_agree "Root" h
  have hrun : (Interpreter.mk true "Root" sums).run.1 = .ok _ := Interpreter.run_eq_ok_iff.2 rfl
  obtain ⟨m, hm⟩ := hiff.1 ⟨_, hrun⟩
  obtain ⟨d, s, hd, rfl, hs, -, hdenotes⟩ := hok _ m hrun hm
  exact ⟨h, d, s, hd, hs, hdenotes "x" (.integer 4294967295) (by decide +kernel)⟩

end Llvm

end LetScript
