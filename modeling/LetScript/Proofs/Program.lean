import LetScript.Program
import Mathlib.Tactic.Common

/-!
# Scripts that compile, and runs of programs

What it takes for a script to compile, and when the run of a program ends in each of the three ways:
at the gate, with a failure, or with bindings.
-/

namespace LetScript

variable {s : Settings} {script : Text} {p : Program}

/-! ### Compiling -/

lemma compile_eq_ok_iff : compile s script = .ok p ↔
    ∃ tokens nodes, tokenize script = .ok tokens ∧ parse s.grammar tokens = .ok nodes ∧
      ⟨script, tokens, nodes, check s.switches.symbolTable nodes⟩ = p := by
  rw [compile]
  rcases htokens : tokenize script with e | tokens
  · simp
  · rcases hnodes : parse s.grammar tokens with e | nodes <;> simp [hnodes]

lemma exists_parse_of_compile (h : compile s script = .ok p) :
    ∃ tokens, tokenize script = .ok tokens ∧ parse s.grammar tokens = .ok p.nodes := by
  obtain ⟨tokens, nodes, htokens, hnodes, rfl⟩ := compile_eq_ok_iff.1 h
  exact ⟨tokens, htokens, hnodes⟩

lemma compile_typeErrors (h : compile s script = .ok p) :
    p.typeErrors = check s.switches.symbolTable p.nodes := by
  obtain ⟨tokens, nodes, -, -, rfl⟩ := compile_eq_ok_iff.1 h
  rfl

lemma compile_script (h : compile s script = .ok p) : p.script = script := by
  obtain ⟨tokens, nodes, -, -, rfl⟩ := compile_eq_ok_iff.1 h
  rfl

/-- A script whose nodes are known has a program with these nodes and their type errors. -/
lemma exists_compile_eq_ok {nodes : List Node}
    (h : (compile s script).toOption.map Program.nodes = some nodes) :
    ∃ p, compile s script = .ok p ∧ p.nodes = nodes ∧
      p.typeErrors = check s.switches.symbolTable nodes := by
  rcases hp : compile s script with r | p
  · simp [hp, Except.toOption] at h
  · obtain rfl : p.nodes = nodes := by simpa [hp, Except.toOption] using h
    exact ⟨p, rfl, rfl, compile_typeErrors hp⟩

/-! ### Running -/

namespace Program

/-- The gate stops programs with type errors, and only these. -/
lemma run_eq_typeErrors_iff :
    p.run s = .error .typeErrors ↔ s.switches.gate = true ∧ p.typeErrors ≠ [] := by
  rw [run]
  split
  · next hgate => simpa using hgate
  · next hgate =>
    rcases (Interpreter.mk s.switches.arithmetic s.context p.nodes).run.1 with e | ctx <;>
      simpa using hgate

/-- A program without type errors passes the gate, and fails as its interpreter does. -/
lemma run_eq_failed_iff (h : p.typeErrors = []) {e : RuntimeError} :
    p.run s = .error (.failed e) ↔
      (Interpreter.mk s.switches.arithmetic s.context p.nodes).run.1 = .error e := by
  rw [run, h]
  rcases (Interpreter.mk s.switches.arithmetic s.context p.nodes).run.1 with e' | ctx <;> simp

/-- A run that passes the gate completes as its interpreter does. -/
lemma run_eq_ok_iff {ctx : Context} :
    p.run s = .ok ctx ↔ (s.switches.gate = true → p.typeErrors = []) ∧
      (Interpreter.mk s.switches.arithmetic s.context p.nodes).run.1 = .ok ctx := by
  rw [run]
  split
  · next hgate =>
    simp only [Bool.and_eq_true, Bool.not_eq_true', List.isEmpty_eq_false_iff] at hgate
    simp [hgate.1, hgate.2]
  · next hgate =>
    have hopen : s.switches.gate = true → p.typeErrors = [] := by simpa using hgate
    rw [and_iff_right hopen]
    rcases (Interpreter.mk s.switches.arithmetic s.context p.nodes).run.1 with e | ctx' <;> simp

end Program

end LetScript
