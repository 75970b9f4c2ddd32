import LetScript.Llvm.Lowering
import LetScript.Proofs.Cursor

/-!
# What the generator does with a script

The loop of the generator, related to a function on the list of expressions that are left.  Later
proofs use this function and do not look into the loop again.
-/

namespace LetScript.Llvm

variable {d d' : Draft} {e : LoweringError}

/-- Lower expressions one behind the other into a draft.  A failure comes with the expressions behind
the one that failed. -/
def lowerAll (nodes : List Node) (d : Draft) : Except (LoweringError × List Node) Draft :=
  Cursor.foldAll Generator.step nodes d

@[simp] lemma lowerAll_nil (d : Draft) : lowerAll [] d = .ok d := rfl

lemma lowerAll_cons (n : Node) (nodes : List Node) (d : Draft) :
    lowerAll (n :: nodes) d =
      match lower n d with
      | .error e => .error (e, nodes)
      | .ok (_, d') => lowerAll nodes d' := by
  rw [lowerAll, Cursor.foldAll, Generator.step]
  rcases lower n d with e | ⟨x, d'⟩ <;> rfl

lemma Generator.step_eq_error_iff {n : Node} : step d n = .error e ↔ lower n d = .error e := by
  rw [step]
  rcases lower n d with e' | ⟨x, d'⟩ <;> simp

/-- A lowering that fails gets through the expressions before the one it fails at. -/
lemma lowerAll_eq_error {nodes rest : List Node} (h : lowerAll nodes d = .error (e, rest)) :
    ∃ before n d', nodes = before ++ n :: rest ∧ lowerAll before d = .ok d' ∧
      lower n d' = .error e := by
  obtain ⟨before, n, d', hnodes, hbefore, hn⟩ := Cursor.foldAll_eq_error h
  exact ⟨before, n, d', hnodes, hbefore, Generator.step_eq_error_iff.1 hn⟩

namespace Generator

/-- **A run lowers what is ahead of the cursor into an empty draft**, and leaves the cursor in front
of what it has not come to. -/
lemma run_eq (g : Generator) :
    g.run =
      match lowerAll g.rest Draft.empty with
      | .ok d => (.ok d.finish, ⟨g.cursor.moveTo []⟩)
      | .error (e, rest) => (.error e, ⟨g.cursor.moveTo rest⟩) := by
  rw [run, Cursor.foldUntil_eq, lowerAll, rest]
  rcases Cursor.foldAll step g.cursor.rest Draft.empty with ⟨e, rest⟩ | d <;> rfl

@[simp] lemma rest_ofList (nodes : List Node) : (Generator.mk nodes).rest = nodes := rfl

lemma run_eq_ok_iff {nodes : List Node} {m : Module} :
    (Generator.mk nodes).run.1 = .ok m ↔
      ∃ d, lowerAll nodes Draft.empty = .ok d ∧ d.finish = m := by
  rw [run_eq, rest_ofList]
  rcases lowerAll nodes Draft.empty with ⟨e, rest⟩ | d <;> simp

/-- A run that fails leaves the expressions behind the one it failed at. -/
lemma run_of_error {nodes rest : List Node} (h : lowerAll nodes Draft.empty = .error (e, rest)) :
    (Generator.mk nodes).run = (.error e, ⟨(Cursor.ofList nodes).moveTo rest⟩) := by
  rw [run_eq, rest_ofList, h]

end Generator

end LetScript.Llvm
