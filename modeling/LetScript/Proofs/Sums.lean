import LetScript.Proofs.Interpreter
import LetScript.Proofs.Node.Regrouping

/-!
# Sums in any grouping

A sum evaluates its operands from the left, however its operators group, and the sum of the values
is the same for every grouping, because addition modulo 2 ^ 32 is associative.  An operand may be an
assignment and change what the operands behind it read; the order in which they are evaluated, and
so the bindings, do not depend on the grouping either.  What does depend on it is where a run stops
that fails: hence all statements here are about evaluations that succeed.
-/

namespace LetScript

variable {arithmetic : Bool} {n m : Node} {ctx ctx' : Context}

/-- Regrouping keeps the value of an expression and the bindings behind it. -/
lemma Regroups.eval_eq_ok_iff (h : Regroups n m) {v : Value} :
    eval arithmetic n ctx = .ok (v, ctx') ↔ eval arithmetic m ctx = .ok (v, ctx') := by
  induction h generalizing ctx ctx' v with
  | refl n => rfl
  | rotate a b c op op' l l' =>
    constructor
    · intro h
      obtain ⟨harith, hop', s, k, ctx₂, hab, hc, rfl⟩ := eval_binary_eq_ok.1 h
      obtain ⟨-, hop, i, j, ctx₁, ha, hb, hsum⟩ := eval_binary_eq_ok.1 hab
      obtain rfl : s = i + j := Value.integer.inj hsum
      have hbc : eval arithmetic (.binary b op' c l') ctx₁ = .ok (.integer (j + k), ctx') :=
        eval_binary_eq_ok.2 ⟨harith, hop', j, k, ctx₂, hb, hc, rfl⟩
      rw [UInt32.add_assoc]
      exact eval_binary_eq_ok.2 ⟨harith, hop, i, j + k, ctx₁, ha, hbc, rfl⟩
    · intro h
      obtain ⟨harith, hop, i, s, ctx₁, ha, hbc, rfl⟩ := eval_binary_eq_ok.1 h
      obtain ⟨-, hop', j, k, ctx₂, hb, hc, hsum⟩ := eval_binary_eq_ok.1 hbc
      obtain rfl : s = j + k := Value.integer.inj hsum
      have hab : eval arithmetic (.binary a op b l) ctx = .ok (.integer (i + j), ctx₂) :=
        eval_binary_eq_ok.2 ⟨harith, hop, i, j, ctx₁, ha, hb, rfl⟩
      rw [← UInt32.add_assoc]
      exact eval_binary_eq_ok.2 ⟨harith, hop', i + j, k, ctx₂, hab, hc, rfl⟩
  | binary op l _ _ ihl ihr => simp only [eval_binary_eq_ok, ihl, ihr]
  | declaration name type l _ ih => simp only [eval_declaration_eq_ok, ih]
  | assignment name l _ ih => simp only [eval_assignment_eq_ok, ih]
  | trans _ _ ih ih' => exact ih.trans ih'

/-! ### Scripts -/

lemma evalAll_eq_ok_iff_of_regroups {ns ms : List Node} (h : List.Forall₂ Regroups ns ms) :
    evalAll arithmetic ns ctx = .ok ctx' ↔ evalAll arithmetic ms ctx = .ok ctx' := by
  induction h generalizing ctx with
  | nil => rfl
  | cons hn _ ih => simp only [evalAll_cons_eq_ok, hn.eval_eq_ok_iff, ih]

/-- **The switch for precedence never changes a run that completes.**  Tokens that are read in one
of the two ways are read in both; the run of the nodes read without precedence completes exactly if
that of the nodes read with it does, and then both end with the same bindings and show the same. -/
theorem run_completes_precedence_agree {precedence assignments : Bool} {tokens : List Token}
    {nodes : List Node} (h : parse ⟨precedence, assignments⟩ tokens = .ok nodes)
    (arithmetic : Bool) (name : Text) :
    ∃ ns ms, parse ⟨false, assignments⟩ tokens = .ok ns ∧
      parse ⟨true, assignments⟩ tokens = .ok ms ∧
      ((∃ ctx, (Interpreter.mk arithmetic name ns).run.1 = .ok ctx) ↔
        ∃ ctx, (Interpreter.mk arithmetic name ms).run.1 = .ok ctx) ∧
      ∀ ctx ctx', (Interpreter.mk arithmetic name ns).run.1 = .ok ctx →
        (Interpreter.mk arithmetic name ms).run.1 = .ok ctx' →
        ctx = ctx' ∧ ctx.text = ctx'.text := by
  obtain ⟨ns, ms, hns, hms, hregroups⟩ := exists_parse_regroups h
  have hiff : ∀ ctx, (Interpreter.mk arithmetic name ns).run.1 = .ok ctx ↔
      (Interpreter.mk arithmetic name ms).run.1 = .ok ctx := by
    intro ctx
    rw [Interpreter.run_eq_ok_iff, Interpreter.run_eq_ok_iff]
    exact (evalAll_eq_ok_iff_of_regroups hregroups).symm
  refine ⟨ns, ms, hns, hms, exists_congr hiff, ?_⟩
  intro ctx ctx' hctx hctx'
  have heq : ctx = ctx' := by
    have hsame := (hiff ctx).1 hctx
    rw [hctx'] at hsame
    exact (Except.ok.inj hsame).symm
  exact ⟨heq, congrArg Context.text heq⟩

/-- The tokens of `let x = 1` and `let y = x + 4294967295 + x = 5 + x`. -/
def assigningSum : List Token :=
  [⟨.letKeyword, "let", ⟨1, 1⟩⟩, ⟨.identifier, "x", ⟨1, 5⟩⟩, ⟨.equals, "=", ⟨1, 7⟩⟩,
    ⟨.integer, "1", ⟨1, 9⟩⟩, ⟨.letKeyword, "let", ⟨2, 1⟩⟩, ⟨.identifier, "y", ⟨2, 5⟩⟩,
    ⟨.equals, "=", ⟨2, 7⟩⟩, ⟨.identifier, "x", ⟨2, 9⟩⟩, ⟨.plus, "+", ⟨2, 11⟩⟩,
    ⟨.integer, "4294967295", ⟨2, 13⟩⟩, ⟨.plus, "+", ⟨2, 24⟩⟩, ⟨.identifier, "x", ⟨2, 26⟩⟩,
    ⟨.equals, "=", ⟨2, 28⟩⟩, ⟨.integer, "5", ⟨2, 30⟩⟩, ⟨.plus, "+", ⟨2, 32⟩⟩,
    ⟨.identifier, "x", ⟨2, 34⟩⟩]

/-- The nodes that they are read as with precedence. -/
def assigningSumNodes : List Node :=
  [.declaration "x" none (.literal (.integer 1) ⟨1, 9⟩) ⟨1, 1⟩,
    .declaration "y" none
      (.binary
        (.binary (.reference "x" ⟨2, 9⟩) .plus (.literal (.integer 4294967295) ⟨2, 13⟩) ⟨2, 11⟩)
        .plus
        (.assignment "x"
          (.binary (.literal (.integer 5) ⟨2, 30⟩) .plus (.reference "x" ⟨2, 34⟩) ⟨2, 32⟩) ⟨2, 26⟩)
        ⟨2, 24⟩)
      ⟨2, 1⟩]

/-- A sum that wraps around, and whose last operand assigns a name that its first one reads. -/
theorem run_completes_precedence_agree_assigningSum :
    ∃ ns ctx, parse ⟨true, true⟩ assigningSum = .ok assigningSumNodes ∧
      parse ⟨false, true⟩ assigningSum = .ok ns ∧
      (Interpreter.mk true "Root" ns).run.1 = .ok ctx ∧
      (Interpreter.mk true "Root" assigningSumNodes).run.1 = .ok ctx ∧
      ctx.bindings.entries = ([("x", .integer 6), ("y", .integer 6)] : List (Text × Value)) := by
  have hparse : parse ⟨true, true⟩ assigningSum = .ok assigningSumNodes :=
    parse_eq_ok (by decide +kernel)
  obtain ⟨ns, ms, hns, hms, hcompletes, hsame⟩ :=
    run_completes_precedence_agree hparse true "Root"
  obtain rfl : ms = assigningSumNodes := by
    rw [hparse] at hms
    exact (Except.ok.inj hms).symm
  have hrun : (Interpreter.mk true "Root" assigningSumNodes).run.1 = .ok _ :=
    Interpreter.run_eq_ok_iff.2 rfl
  obtain ⟨ctx, hctx⟩ := hcompletes.2 ⟨_, hrun⟩
  obtain ⟨rfl, -⟩ := hsame ctx _ hctx hrun
  exact ⟨ns, _, hparse, hns, hctx, hrun, by decide +kernel⟩

end LetScript
