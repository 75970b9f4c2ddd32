import LetScript.Proofs.Arithmetic
import LetScript.Proofs.Bindings
import LetScript.Proofs.Llvm.Lowering
import LetScript.Proofs.Llvm.Machine

/-!
# Lowering follows evaluation

The evaluation binds names to values, the lowering binds them to operands and emits the code that
computes those.  The invariant `Tracks` ties the two together at every moment: the code emitted so
far runs without getting stuck, and every name is bound to an operand that *denotes* the value of
the name after that code.  Code and globals are only ever appended, and results only ever get new
numbers, so an operand goes on denoting the value it was made for, whatever is bound, bound anew or
emitted later.

The main results, `lower_simulates` and `lowerAll_simulates`, compare the two walks from there on:
they both go through and track each other again, or they both fail at the same place for the same
cause, or the evaluation has met a quotient by zero.
-/

namespace LetScript

/-! ### Causes of failures -/

/-- Why evaluation or lowering fails, without the particulars. -/
inductive Cause where
  /-- A name is not bound. -/
  | unknownVariable
  /-- A binary operation is not evaluated. -/
  | uninterpretable
  /-- Operands are not numbers. -/
  | invalidOperands
  /-- An operator has no meaning. -/
  | unsupportedOperator
deriving DecidableEq

/-- The cause of a failure of a run. -/
def Fault.cause : Fault → Cause
  | unknownVariable _ => .unknownVariable
  | uninterpretable => .uninterpretable
  | invalidOperands _ _ => .invalidOperands
  | unsupportedOperator _ => .unsupportedOperator

/-- The cause of a failure of the lowering. -/
def Llvm.LoweringFault.cause : Llvm.LoweringFault → Cause
  | unknownVariable _ => .unknownVariable
  | invalidOperands _ => .invalidOperands
  | unsupportedOperator _ => .unsupportedOperator

namespace Llvm

/-! ### Operands that denote values -/

/-- With these globals and results, the operand stands for the value: it has the number as its
value, or is the address of the bytes of the string and a NUL byte. -/
inductive Denotes (globals : List Global) (r : Registers) : Value → Operand → Prop
  | word {n : UInt32} {w : Word} (h : w.value? r = some n) :
      Denotes globals r (.integer n) (.word w)
  | address {s : Text} {g : Global} (h : contents? globals g.index = some (s.bytes ++ [0])) :
      Denotes globals r (.string s) (.address g)

/-- From one draft to a later one, globals are appended and results are kept. -/
structure Grows (d : Draft) (r : Registers) (d' : Draft) (r' : Registers) : Prop where
  globals : ∃ more, d'.globals = d.globals ++ more
  registers : r'.Extends r

namespace Grows

variable {d d₁ d₂ : Draft} {r r₁ r₂ : Registers}

lemma refl (d : Draft) (r : Registers) : Grows d r d r :=
  ⟨⟨[], by simp⟩, r.extends_refl⟩

lemma trans (h₁ : Grows d r d₁ r₁) (h₂ : Grows d₁ r₁ d₂ r₂) : Grows d r d₂ r₂ := by
  obtain ⟨more₁, hmore₁⟩ := h₁.globals
  obtain ⟨more₂, hmore₂⟩ := h₂.globals
  refine ⟨⟨more₁ ++ more₂, ?_⟩, h₂.registers.trans h₁.registers⟩
  rw [hmore₂, hmore₁, List.append_assoc]

/-- An operand goes on denoting its value. -/
lemma denotes (h : Grows d r d₁ r₁) {v : Value} {o : Operand} (hv : Denotes d.globals r v o) :
    Denotes d₁.globals r₁ v o := by
  obtain ⟨more, hmore⟩ := h.globals
  cases hv with
  | word hw => exact .word (Word.value?_of_extends h.registers hw)
  | address hg =>
    rw [hmore]
    exact .address (contents?_append hg more)

end Grows

/-! ### The invariant -/

/-- Whether an instruction is an arithmetic one. -/
def Instr.isArith : Instr → Bool
  | arith _ _ _ _ => true
  | _ => false

/-- The draft, whose code computes the results `r`, binds names to operands that denote what the
names are bound to in the scope. -/
structure Tracks (ctx : Context) (d : Draft) (r : Registers) : Prop where
  exec_body : Machine.start.exec d.body = some ⟨r, [], none⟩
  arith_body : ∀ i ∈ d.body, i.isArith = true
  fresh : ∀ id, d.results < id → r id = none
  index_lt : ∀ g ∈ d.globals, g.index < d.globals.length
  values : Bindings.Rel (Denotes d.globals r) ctx.bindings d.values

namespace Tracks

variable {ctx : Context} {d : Draft} {r : Registers}

lemma empty (name : Text) : Tracks (Context.ofName name) Draft.empty .empty where
  exec_body := rfl
  arith_body := by simp [Draft.empty]
  fresh := fun _ _ => rfl
  index_lt := by simp [Draft.empty]
  values := Bindings.Rel.empty

/-- Binding a name to a value on one side and to an operand that denotes it on the other. -/
lemma bind (h : Tracks ctx d r) (name : Text) {v : Value} {o : Operand}
    (hv : Denotes d.globals r v o) : Tracks (ctx.set name v) (d.bind name o) r :=
  { h with values := h.values.insert name hv }

/-- A new global can be found under its number, and the old ones under theirs. -/
lemma addString (h : Tracks ctx d r) (s : Text) :
    Grows d r (d.addString s).2 r ∧ Tracks ctx (d.addString s).2 r ∧
      Denotes (d.addString s).2.globals r (.string s) (d.addString s).1 := by
  have hgrows : Grows d r (d.addString s).2 r := ⟨⟨_, rfl⟩, r.extends_refl⟩
  have hnew : ∀ g ∈ d.globals, g.index ≠ d.globals.length := fun g hg => (h.index_lt g hg).ne
  refine ⟨hgrows, { h with index_lt := ?_, values := h.values.mono fun _ _ => hgrows.denotes }, ?_⟩
  · intro g hg
    simp only [Draft.addString, List.mem_append, List.mem_singleton] at hg
    simp only [Draft.addString, List.length_append, List.length_singleton]
    rcases hg with hg | rfl
    · have := h.index_lt g hg
      omega
    · simp
  · exact .address (contents?_concat hnew)

/-- The result of a new instruction has a new number, so it disturbs no operand. -/
lemma addArith (h : Tracks ctx d r) {op : Arith} {v w : Word} {a b c : UInt32}
    (hv : v.value? r = some a) (hw : w.value? r = some b) (hc : op.result? a b = some c) :
    ∃ r', Grows d r (d.addArith op v w).2 r' ∧ Tracks ctx (d.addArith op v w).2 r' ∧
      Denotes (d.addArith op v w).2.globals r' (.integer c) (d.addArith op v w).1 := by
  have hnew : r (d.results + 1) = none := h.fresh _ (by omega)
  have hgrows : Grows d r (d.addArith op v w).2 (r.set (d.results + 1) c) :=
    ⟨⟨[], by simp [Draft.addArith]⟩, Registers.extends_set hnew c⟩
  refine ⟨r.set (d.results + 1) c, hgrows, ⟨?_, ?_, ?_, ?_, ?_⟩, ?_⟩
  · exact Machine.exec_concat h.exec_body (Machine.step_arith hv hw hc _)
  · intro i hi
    simp only [Draft.addArith, List.mem_append, List.mem_singleton] at hi
    rcases hi with hi | rfl
    · exact h.arith_body i hi
    · rfl
  · intro id hid
    simp only [Draft.addArith] at hid
    rw [Registers.set_of_ne r c (by omega)]
    exact h.fresh id (by omega)
  · exact h.index_lt
  · exact h.values.mono fun _ _ => hgrows.denotes
  · exact .word (by simp)

end Tracks

/-! ### Simulation -/

/-- How an evaluation and a lowering that start from a draft may end: together, with operands that
denote values; together, with the same failure; or the evaluation meets a quotient by zero. -/
inductive Simulates (d : Draft) (r : Registers) :
    Except Stop (Value × Context) → Except LoweringError (Operand × Draft) → Prop
  | ok {v : Value} {ctx : Context} {o : Operand} {d' : Draft} {r' : Registers}
      (hgrows : Grows d r d' r') (htracks : Tracks ctx d' r') (hv : Denotes d'.globals r' v o) :
      Simulates d r (.ok (v, ctx)) (.ok (o, d'))
  | fault {e : RuntimeError} {e' : LoweringError} (hlocation : e.location = e'.location)
      (hcause : e.fault.cause = e'.fault.cause) :
      Simulates d r (.error (.fault e)) (.error e')
  | zeroDivisor (l : Location) (result : Except LoweringError (Operand × Draft)) :
      Simulates d r (.error (.zeroDivisor l)) result

lemma Grows.simulates {d d₁ : Draft} {r r₁ : Registers} (h : Grows d r d₁ r₁)
    {x : Except Stop (Value × Context)} {y : Except LoweringError (Operand × Draft)}
    (hxy : Simulates d₁ r₁ x y) : Simulates d r x y := by
  cases hxy with
  | ok hgrows htracks hv => exact .ok (h.trans hgrows) htracks hv
  | fault hlocation hcause => exact .fault hlocation hcause
  | zeroDivisor l => exact .zeroDivisor l y

/-- Giving a name to what an expression comes to, on both sides. -/
lemma Simulates.bind {d : Draft} {r : Registers} {x : Except Stop (Value × Context)}
    {y : Except LoweringError (Operand × Draft)} (name : Text) :
    Simulates d r x y →
      Simulates d r
        (match x with
          | .error e => .error e
          | .ok (v, ctx) => .ok (v, ctx.set name v))
        (match y with
          | .error e => .error e
          | .ok (o, d') => .ok (o, d'.bind name o)) := by
  intro h
  cases h with
  | ok hgrows htracks hv => exact .ok ⟨hgrows.globals, hgrows.registers⟩ (htracks.bind name hv) hv
  | fault hlocation hcause => exact .fault hlocation hcause
  | zeroDivisor l => exact .zeroDivisor l _

lemma ofInt_natCast (n : UInt32) : UInt32.ofInt n.toNat = n := by
  have hlt : n.toNat < 2 ^ 32 := n.toNat_lt
  apply UInt32.toNat.inj
  rw [UInt32.ofInt, UInt32.toNat_ofNat']
  omega

/-- Instructions compute what operators mean. -/
lemma apply_ofOperator? {op : Operator} {a : Arith} (h : Arith.ofOperator? op = some a)
    (l : Location) (m n : UInt32) :
    (∃ k, op.apply l (.integer m) (.integer n) = .ok (.integer k) ∧ a.result? m n = some k) ∨
      op.apply l (.integer m) (.integer n) = .error (.zeroDivisor l) := by
  cases op with
  | plus =>
    obtain rfl : Arith.add = a := by simpa [Arith.ofOperator?] using h
    exact .inl ⟨_, rfl, by simp [Arith.result?, ofInt_natCast]⟩
  | minus =>
    obtain rfl : Arith.sub = a := by simpa [Arith.ofOperator?] using h
    refine .inl ⟨_, rfl, ?_⟩
    rw [Arith.result?, Int.sub_eq_add_neg, UInt32.ofInt_add, UInt32.ofInt_neg, ofInt_natCast,
      ofInt_natCast, UInt32.sub_eq_add_neg]
  | times =>
    obtain rfl : Arith.mul = a := by simpa [Arith.ofOperator?] using h
    exact .inl ⟨_, rfl, by simp [Arith.result?, ofInt_natCast]⟩
  | divide =>
    obtain rfl : Arith.udiv = a := by simpa [Arith.ofOperator?] using h
    by_cases hn : n = 0
    · exact .inr (by simp [Operator.apply, hn])
    · have hn' : n.toNat ≠ 0 := fun h0 => hn (UInt32.toNat.inj h0)
      refine .inl ⟨m / n, by simp [Operator.apply, hn], ?_⟩
      rw [Arith.result?, if_neg hn', UInt32.ofNat_div m.toNat_lt n.toNat_lt, UInt32.ofNat_toNat,
        UInt32.ofNat_toNat]
  | unknown s => simp [Arith.ofOperator?] at h

/-- An operation whose operands denote values: the operands must be numbers, and then the operator
decides. -/
lemma lowerBinary_simulates {ctx : Context} {d : Draft} {r : Registers} (h : Tracks ctx d r)
    {v w : Value} {o p : Operand} (hv : Denotes d.globals r v o) (hw : Denotes d.globals r w p)
    (op : Operator) (l : Location) :
    Simulates d r
      (match op.apply l v w with
        | .error e => .error e
        | .ok result => .ok (result, ctx))
      (lowerBinary l op o p d) := by
  cases hv with
  | address _ => cases hw <;> exact .fault rfl rfl
  | word hm =>
    cases hw with
    | address _ => exact .fault rfl rfl
    | @word n q hn =>
      rw [lowerBinary]
      rcases ha : Arith.ofOperator? op with _ | a
      · -- only symbols that no script can contain have no instruction
        cases op <;> simp [Arith.ofOperator?] at ha
        exact .fault rfl rfl
      · rcases apply_ofOperator? ha l _ n with ⟨k, hk, hresult⟩ | hzero
        · obtain ⟨r', hgrows, htracks, hdenotes⟩ := h.addArith hm hn hresult
          rw [hk]
          exact .ok hgrows htracks hdenotes
        · rw [hzero]
          exact .zeroDivisor l _

/-- **Lowering an expression follows its evaluation.** -/
theorem lower_simulates {n : Node} {ctx : Context} {d : Draft} {r : Registers}
    (h : Tracks ctx d r) : Simulates d r (evalArith n ctx) (lower n d) := by
  induction n generalizing ctx d r with
  | literal v l =>
    cases v with
    | integer k => exact .ok (Grows.refl d r) h (.word (by simp))
    | string s =>
      obtain ⟨hgrows, htracks, hdenotes⟩ := h.addString s
      exact .ok hgrows htracks hdenotes
  | declaration name type expr l ih =>
    rw [evalArith, lower]
    exact (ih h).bind name
  | assignment name expr l ih =>
    rw [evalArith, lower]
    -- both look the name up before they turn to the expression
    rcases hname : ctx.get? name with _ | v₀
    · rw [h.values.get?_eq_none_iff.1 hname]
      exact .fault rfl rfl
    · obtain ⟨o₀, ho₀, -⟩ := h.values.get?_left hname
      rw [ho₀]
      exact (ih h).bind name
  | reference name l =>
    rw [evalArith, lower]
    rcases hname : ctx.get? name with _ | v
    · rw [h.values.get?_eq_none_iff.1 hname]
      exact .fault rfl rfl
    · obtain ⟨o, ho, hv⟩ := h.values.get?_left hname
      rw [ho]
      exact .ok (Grows.refl d r) h hv
  | binary left op right l ihl ihr =>
    have hleft := ihl h
    rw [evalArith, lower]
    generalize evalArith left ctx = x at hleft ⊢
    generalize lower left d = y at hleft ⊢
    cases hleft with
    | fault hlocation hcause => exact .fault hlocation hcause
    | zeroDivisor l' => exact .zeroDivisor l' _
    | @ok v ctx₁ o d₁ r₁ hgrows₁ htracks₁ hv =>
      have hright := ihr htracks₁
      simp only
      generalize evalArith right ctx₁ = x at hright ⊢
      generalize lower right d₁ = y at hright ⊢
      refine hgrows₁.simulates ?_
      cases hright with
      | fault hlocation hcause => exact .fault hlocation hcause
      | zeroDivisor l' => exact .zeroDivisor l' _
      | ok hgrows₂ htracks₂ hw =>
        -- the left operand denotes its value also behind the code of the right one
        exact hgrows₂.simulates (lowerBinary_simulates htracks₂ (hgrows₂.denotes hv) hw op l)

/-- How the evaluation and the lowering of a script may end.  A failure leaves the same expressions
behind it. -/
inductive SimulatesAll :
    Except (Stop × List Node) Context → Except (LoweringError × List Node) Draft → Prop
  | ok {ctx : Context} {d : Draft} {r : Registers} (htracks : Tracks ctx d r) :
      SimulatesAll (.ok ctx) (.ok d)
  | fault {e : RuntimeError} {e' : LoweringError} (rest : List Node)
      (hlocation : e.location = e'.location) (hcause : e.fault.cause = e'.fault.cause) :
      SimulatesAll (.error (.fault e, rest)) (.error (e', rest))
  | zeroDivisor (l : Location) (rest : List Node)
      (result : Except (LoweringError × List Node) Draft) :
      SimulatesAll (.error (.zeroDivisor l, rest)) result

/-- **Lowering a script follows its evaluation.** -/
theorem lowerAll_simulates {nodes : List Node} {ctx : Context} {d : Draft} {r : Registers}
    (h : Tracks ctx d r) : SimulatesAll (evalArithAll nodes ctx) (lowerAll nodes d) := by
  induction nodes generalizing ctx d r with
  | nil => exact .ok h
  | cons n nodes ih =>
    have hn : Simulates d r (evalArith n ctx) (lower n d) := lower_simulates h
    rw [evalArithAll, lowerAll_cons]
    generalize evalArith n ctx = x at hn ⊢
    generalize lower n d = y at hn ⊢
    cases hn with
    | ok _ htracks _ => exact ih htracks
    | fault hlocation hcause => exact .fault nodes hlocation hcause
    | zeroDivisor l => exact .zeroDivisor l nodes _

end Llvm

end LetScript
