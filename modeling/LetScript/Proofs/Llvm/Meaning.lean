import LetScript.Proofs.Llvm.Simulation

/-!
# What the module of a script does

A run of `main` computes what the script computes, and then prints its bindings.  The main result,
`run_of_lowered`, compares a run of the module with the evaluation of the script with all four
operators: if a script can be lowered and its evaluation meets no quotient by zero, then the
evaluation goes through, the run gets through to the return, and the calls it makes are one for
each bound name, in byte order of the names.
-/

namespace LetScript.Llvm

/-- Whether an instruction is a call. -/
def Instr.isCall : Instr → Bool
  | print _ => true
  | puts _ _ => true
  | _ => false

/-- The call that prints a value: of `print` with a number, of `puts` with the address of the bytes
of a string and a NUL byte. -/
inductive Prints (globals : List Global) : Value → Call → Prop
  | print (n : UInt32) : Prints globals (.integer n) (.print n)
  | puts {s : Text} {address : Nat} (h : contents? globals address = some (s.bytes ++ [0])) :
      Prints globals (.string s) (.puts address)

/-! ### Printing -/

/-- The instruction that prints an operand makes one call, which prints the value that the operand
denotes. -/
lemma exec_addPrint {globals : List Global} {r : Registers} {v : Value} {o : Operand} {d : Draft}
    {calls : List Call} (hv : Denotes globals r v o)
    (h : Machine.start.exec d.body = some ⟨r, calls, none⟩) :
    ∃ i c, (d.addPrint o).body = d.body ++ [i] ∧ i.isCall = true ∧
      Machine.start.exec (d.addPrint o).body = some ⟨r, calls ++ [c], none⟩ ∧
      Prints globals v c := by
  cases hv with
  | @word n w hw =>
    exact ⟨.print w, .print n, rfl, rfl, Machine.exec_concat h (Machine.step_print hw), .print n⟩
  | @address s g hg =>
    exact ⟨.puts (d.results + 1) g, .puts g.index, rfl, rfl,
      Machine.exec_concat h (Machine.step_puts _ g), .puts hg⟩

@[simp] lemma globals_addPrint (d : Draft) (o : Operand) : (d.addPrint o).globals = d.globals := by
  cases o <;> rfl

@[simp] lemma globals_foldl_addPrint (entries : List (Text × Operand)) (d : Draft) :
    (entries.foldl (fun d e => d.addPrint e.2) d).globals = d.globals := by
  induction entries generalizing d with
  | nil => rfl
  | cons e entries ih => rw [List.foldl_cons, ih, globals_addPrint]

/-- Printing entry by entry: the calls print the values that the operands denote, in order. -/
lemma exec_foldl_addPrint {globals : List Global} {r : Registers} {xs : List (Text × Value)}
    {entries : List (Text × Operand)}
    (hxs : List.Forall₂ (fun x e => x.1 = e.1 ∧ Denotes globals r x.2 e.2) xs entries)
    {d : Draft} {calls : List Call} (h : Machine.start.exec d.body = some ⟨r, calls, none⟩) :
    ∃ prints calls',
      (entries.foldl (fun d e => d.addPrint e.2) d).body = d.body ++ prints ∧
      (∀ i ∈ prints, i.isCall = true) ∧
      Machine.start.exec (entries.foldl (fun d e => d.addPrint e.2) d).body
        = some ⟨r, calls ++ calls', none⟩ ∧
      List.Forall₂ (fun x c => Prints globals x.2 c) xs calls' := by
  induction hxs generalizing d calls with
  | nil => exact ⟨[], [], by simp, by simp, by simpa using h, .nil⟩
  | @cons x e xs entries hxe _ ih =>
    obtain ⟨i, c, hbody, hi, hexec, hc⟩ := exec_addPrint hxe.2 h
    obtain ⟨prints, calls', hbody', hprints, hexec', hcalls'⟩ := ih hexec
    refine ⟨i :: prints, c :: calls', ?_, ?_, ?_, .cons hc hcalls'⟩
    · rw [List.foldl_cons, hbody', hbody, List.append_assoc, List.singleton_append]
    · simpa [hi] using hprints
    · rw [List.foldl_cons, hexec', List.append_assoc, List.singleton_append]

/-- The run of a finished module: behind the code of the draft it prints every binding and
returns. -/
lemma Tracks.run_finish {ctx : Context} {d : Draft} {r : Registers} (h : Tracks ctx d r) :
    ∃ prints calls, d.finish.body = d.body ++ prints ++ [.ret] ∧
      (∀ i ∈ prints, i.isCall = true) ∧ d.finish.run = some ⟨r, calls, some 0⟩ ∧
      List.Forall₂ (fun x c => Prints d.globals x.2 c) ctx.bindings.entries calls := by
  obtain ⟨prints, calls, hbody, hprints, hexec, hcalls⟩ :=
    exec_foldl_addPrint h.values.forall₂_entries h.exec_body
  refine ⟨prints, calls, ?_, hprints, Machine.exec_concat hexec Machine.step_ret, hcalls⟩
  rw [Draft.finish, hbody]

lemma globals_finish (d : Draft) : d.finish.globals = d.globals := globals_foldl_addPrint _ d

/-! ### The meaning of a module -/

/-- **The module of a script means what the script means.**  If a script can be lowered and its
evaluation with all four operators meets no quotient by zero, then the evaluation goes through.
`main` consists of arithmetic, calls and a return, and gets through to the return.  Its calls
are one for each bound name, in byte order of the names, and print what the name is bound to. -/
theorem run_of_lowered {nodes : List Node} {m : Module} (name : Text)
    (hm : (Generator.mk nodes).run.1 = .ok m)
    (hzero : ∀ l rest, evalArithAll nodes (Context.ofName name) ≠ .error (.zeroDivisor l, rest)) :
    ∃ ctx s, evalArithAll nodes (Context.ofName name) = .ok ctx ∧
      (∃ code prints, m.body = code ++ prints ++ [.ret] ∧ (∀ i ∈ code, i.isArith = true) ∧
        ∀ i ∈ prints, i.isCall = true) ∧
      m.run = some s ∧ s.exit = some 0 ∧
      (∀ x, x ∈ ctx.names ↔ ∃ v, ctx.get? x = some v) ∧ ctx.names.Pairwise (· < ·) ∧
      List.Forall₂ (fun x c => ∃ v, ctx.get? x = some v ∧ Prints m.globals v c)
        ctx.names s.calls := by
  obtain ⟨d, hd, rfl⟩ := Generator.run_eq_ok_iff.1 hm
  have hsim : SimulatesAll (evalArithAll nodes (Context.ofName name)) (lowerAll nodes .empty) :=
    lowerAll_simulates (Tracks.empty name)
  rw [hd] at hsim
  rcases heval : evalArithAll nodes (Context.ofName name) with ⟨stop, rest⟩ | ctx
  · rw [heval] at hsim
    cases hsim with
    | zeroDivisor l _ => exact absurd heval (hzero l rest)
  · rw [heval] at hsim
    cases hsim with
    | ok htracks =>
      obtain ⟨prints, calls, hbody, hprints, hrun, hcalls⟩ := htracks.run_finish
      refine ⟨ctx, _, rfl, ⟨d.body, prints, hbody, htracks.arith_body, hprints⟩, hrun, rfl,
        fun x => Bindings.mem_names_iff, List.pairwise_map.2 ctx.bindings.sorted, ?_⟩
      have hget : ∀ x ∈ ctx.bindings.entries, ctx.get? x.1 = some x.2 :=
        fun x hx => Bindings.get?_of_mem_entries hx
      rw [globals_finish, Context.names, Bindings.names, List.forall₂_map_left_iff]
      refine ((List.forall₂_and_left _ _).2 ⟨hget, hcalls⟩).imp ?_
      rintro x c ⟨hx, hc⟩
      exact ⟨x.2, hx, hc⟩

/-- `let x = 4294967295 / 2`, `let y = x` and `x = x - let z = 2147483649`. -/
def quotients : List Node :=
  [.declaration "x" none
      (.binary (.literal (.integer 4294967295) ⟨1, 9⟩) .divide
        (.literal (.integer 2) ⟨1, 22⟩) ⟨1, 20⟩) ⟨1, 1⟩,
    .declaration "y" none (.reference "x" ⟨2, 9⟩) ⟨2, 1⟩,
    .assignment "x"
      (.binary (.reference "x" ⟨3, 5⟩) .minus
        (.declaration "z" none (.literal (.integer 2147483649) ⟨3, 17⟩) ⟨3, 9⟩) ⟨3, 7⟩) ⟨3, 1⟩]

/-- A constant that prints with a sign, and a name that keeps its value when the one it was taken
from is assigned to: one call for each of `x`, `y` and `z`. -/
theorem run_of_lowered_quotients :
    ∃ m ctx s, (Generator.mk quotients).run.1 = .ok m ∧
      (∀ l rest,
        evalArithAll quotients (Context.ofName "Root") ≠ .error (.zeroDivisor l, rest)) ∧
      evalArithAll quotients (Context.ofName "Root") = .ok ctx ∧
      ctx.bindings.entries = ([("x", .integer 4294967294), ("y", .integer 2147483647),
        ("z", .integer 2147483649)] : List (Text × Value)) ∧
      m.run = some s ∧ s.exit = some 0 ∧
      List.Forall₂ (fun x c => ∃ v, ctx.get? x = some v ∧ Prints m.globals v c)
        ctx.names s.calls := by
  have hlowered : ∃ m, (Generator.mk quotients).run.1 = .ok m :=
    ⟨_, Generator.run_eq_ok_iff.2 ⟨_, rfl, rfl⟩⟩
  obtain ⟨m, hm⟩ := hlowered
  have hzero : ∀ l rest,
      evalArithAll quotients (Context.ofName "Root") ≠ .error (.zeroDivisor l, rest) := by
    intro l rest h
    nomatch h
  obtain ⟨ctx, s, hctx, -, hs, hexit, -, -, hcalls⟩ := run_of_lowered "Root" hm hzero
  refine ⟨m, ctx, s, hm, hzero, hctx, ?_, hs, hexit, hcalls⟩
  cases hctx
  decide +kernel

end LetScript.Llvm
