import LetScript.Proofs.Llvm.Constant

/-!
# Running a module

`main` has no branches, so a run goes through its instructions once, in order.  An arithmetic
instruction stores a result under its number; a call leaves a trace; nothing comes behind the
return.  A run gets *stuck* where LLVM leaves the behaviour undefined or the module would be
rejected: at a result that has not been computed, at a quotient by zero, and behind the return.

Constants are taken from their text, and a call of `puts` is given an address, whose contents are
found among the globals of the module.
-/

namespace LetScript.Llvm

/-! ### Values -/

/-- The results computed so far, by the numbers of their instructions. -/
abbrev Registers := Nat → Option UInt32

namespace Registers

/-- No results. -/
def empty : Registers := fun _ => none

/-- Store a result. -/
def set (r : Registers) (id : Nat) (a : UInt32) : Registers :=
  fun n => if n = id then some a else r n

@[simp] lemma set_self (r : Registers) (id : Nat) (a : UInt32) : r.set id a id = some a :=
  if_pos rfl

lemma set_of_ne (r : Registers) {id n : Nat} (a : UInt32) (h : n ≠ id) : r.set id a n = r n :=
  if_neg h

/-- Every result of `r` is a result of `s`. -/
def Extends (s r : Registers) : Prop := ∀ id a, r id = some a → s id = some a

lemma extends_refl (r : Registers) : r.Extends r := fun _ _ h => h

lemma Extends.trans {r s t : Registers} (hts : t.Extends s) (hsr : s.Extends r) : t.Extends r :=
  fun id a h => hts id a (hsr id a h)

/-- A result under a new number leaves the other ones alone. -/
lemma extends_set {r : Registers} {id : Nat} (hid : r id = none) (a : UInt32) :
    (r.set id a).Extends r := by
  intro n b hn
  have hne : n ≠ id := by
    rintro rfl
    simp [hid] at hn
  rw [set_of_ne r a hne, hn]

end Registers

/-- The value of a 32-bit operand; a constant is read back from its text. -/
def Word.value? (r : Registers) : Word → Option UInt32
  | const n => wordOfText? (Word.text (.const n))
  | temp id => r id

@[simp] lemma Word.value?_const (r : Registers) (n : UInt32) : (const n).value? r = some n :=
  wordOfText?_text_const n

@[simp] lemma Word.value?_temp (r : Registers) (id : Nat) : (temp id).value? r = r id := rfl

lemma Word.value?_of_extends {r s : Registers} (h : s.Extends r) {w : Word} {a : UInt32}
    (hw : w.value? r = some a) : w.value? s = some a := by
  cases w with
  | const n => exact hw
  | temp id => exact h id a hw

/-- The result of an operation on numbers of 32 bits, modulo 2 ^ 32.  There is no quotient by
zero. -/
def Arith.result? (a b : UInt32) : Arith → Option UInt32
  | add => some (UInt32.ofInt (a.toNat + b.toNat))
  | sub => some (UInt32.ofInt (a.toNat - b.toNat))
  | mul => some (UInt32.ofInt (a.toNat * b.toNat))
  | udiv => if b.toNat = 0 then none else some (UInt32.ofNat (a.toNat / b.toNat))

/-- The bytes at an address: those of the global with that number. -/
def contents? (globals : List Global) (address : Nat) : Option (List UInt8) :=
  (globals.find? (·.index = address)).map Global.bytes

/-- What an address holds does not change when globals are added. -/
lemma contents?_append {globals : List Global} {address : Nat} {bytes : List UInt8}
    (h : contents? globals address = some bytes) (more : List Global) :
    contents? (globals ++ more) address = some bytes := by
  obtain ⟨g, hg, hbytes⟩ := Option.map_eq_some_iff.1 h
  rw [contents?, List.find?_append, hg, Option.some_or, Option.map_some, hbytes]

/-- A global with a new number can be found under that number. -/
lemma contents?_concat {globals : List Global} {g : Global} (h : ∀ f ∈ globals, f.index ≠ g.index) :
    contents? (globals ++ [g]) g.index = some g.bytes := by
  have hnone : globals.find? (·.index = g.index) = none := by
    simpa using h
  simp [contents?, List.find?_append, hnone]

/-! ### Runs -/

/-- A call that `main` makes. -/
inductive Call where
  /-- Of `print`, with a number. -/
  | print (n : UInt32)
  /-- Of `puts`, with the address of a global. -/
  | puts (address : Nat)
deriving DecidableEq

/-- How far a run has come. -/
structure Machine where
  /-- The results so far. -/
  registers : Registers
  /-- The calls so far, in order. -/
  calls : List Call
  /-- What `main` has returned, if it has. -/
  exit : Option UInt32

namespace Machine

/-- The machine before a run. -/
def start : Machine := ⟨.empty, [], none⟩

/-- One instruction, unless it is stuck. -/
def step (s : Machine) (i : Instr) : Option Machine :=
  match s.exit, i with
  | some _, _ => none
  | none, .arith id op v w =>
    match v.value? s.registers, w.value? s.registers with
    | some a, some b => (op.result? a b).map fun c => { s with registers := s.registers.set id c }
    | _, _ => none
  | none, .print w => (w.value? s.registers).map fun a => { s with calls := s.calls ++ [.print a] }
  | none, .puts _ g => some { s with calls := s.calls ++ [.puts g.index] }
  | none, .ret => some { s with exit := some 0 }

/-- Instructions one after the other, unless one of them is stuck. -/
def exec (s : Machine) (body : List Instr) : Option Machine := body.foldlM step s

lemma exec_append (s : Machine) (xs ys : List Instr) :
    s.exec (xs ++ ys) = (s.exec xs).bind fun t => t.exec ys :=
  List.foldlM_append

/-- What one more instruction does at the end of a run. -/
lemma exec_concat {s t u : Machine} {body : List Instr} {i : Instr} (h : s.exec body = some t)
    (hi : t.step i = some u) : s.exec (body ++ [i]) = some u := by
  rw [exec_append, h, Option.bind_some]
  simp [exec, hi]

variable {r : Registers} {calls : List Call}

lemma step_arith {op : Arith} {v w : Word} {a b c : UInt32} (hv : v.value? r = some a)
    (hw : w.value? r = some b) (hc : op.result? a b = some c) (id : Nat) :
    step ⟨r, calls, none⟩ (.arith id op v w) = some ⟨r.set id c, calls, none⟩ := by
  simp [step, hv, hw, hc]

lemma step_print {w : Word} {a : UInt32} (hw : w.value? r = some a) :
    step ⟨r, calls, none⟩ (.print w) = some ⟨r, calls ++ [.print a], none⟩ := by
  simp [step, hw]

lemma step_puts (id : Nat) (g : Global) :
    step ⟨r, calls, none⟩ (.puts id g) = some ⟨r, calls ++ [.puts g.index], none⟩ := rfl

lemma step_ret : step ⟨r, calls, none⟩ .ret = some ⟨r, calls, some 0⟩ := rfl

end Machine

/-- A run of `main`. -/
def Module.run (m : Module) : Option Machine := Machine.start.exec m.body

end LetScript.Llvm
