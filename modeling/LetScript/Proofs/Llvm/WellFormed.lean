import LetScript.Proofs.Llvm.Meaning
import Mathlib.Data.List.Nodup

/-!
# The modules of scripts are well-formed

What LLVM asks of a module without branches, and what the names of its globals promise: the results
of `main` are numbered in order, an operand is defined before it is used and has the type that its
use asks for, each global is defined once, and `main` ends with its only return.

While a script is lowered, operands wait in the table of names, are copied from name to name, and
are used long after the code that defines them.  So the invariant `Draft.WellFormed` is about the
table as well: every operand in it is defined by the code and the globals so far.  Both are only
ever appended to, and what is defined stays defined.
-/

namespace LetScript

/-- The string literals of an expression, in the order of their evaluation. -/
def Node.strings : Node → List Text
  | literal (.integer _) _ => []
  | literal (.string s) _ => [s]
  | binary left _ right _ => left.strings ++ right.strings
  | declaration _ _ expr _ => expr.strings
  | assignment _ expr _ => expr.strings
  | reference _ _ => []

namespace Llvm

/-! ### Definitions and uses -/

/-- The type of an operand. -/
inductive OperandType where
  /-- A number of 32 bits. -/
  | i32
  /-- The address of a string. -/
  | address
deriving DecidableEq

/-- The type of an operand. -/
def Operand.type : Operand → OperandType
  | word _ => .i32
  | address _ => .address

namespace Instr

/-- The number of the result, if there is one. -/
def result? : Instr → Option Nat
  | arith id _ _ _ => some id
  | puts id _ => some id
  | print _ | ret => none

/-- The operands that an instruction uses. -/
def operands : Instr → List Operand
  | arith _ _ v w => [.word v, .word w]
  | print w => [.word w]
  | puts _ g => [.address g]
  | ret => []

/-- The types that an instruction asks of its operands. -/
def signature : Instr → List OperandType
  | arith _ _ _ _ => [.i32, .i32]
  | print _ => [.i32]
  | puts _ _ => [.address]
  | ret => []

end Instr

/-- Behind some instructions, a temporary is defined if it is the result of an arithmetic one among
them, and an address if it is that of a global. -/
def Operand.Defined (globals : List Global) (before : List Instr) : Operand → Prop
  | word (.const _) => True
  | word (.temp id) => ∃ i ∈ before, i.isArith = true ∧ i.result? = some id
  | address g => g ∈ globals

lemma Operand.Defined.mono {globals globals' : List Global} {before before' : List Instr}
    {o : Operand} (h : o.Defined globals before) (hglobals : globals ⊆ globals')
    (hbefore : before ⊆ before') : o.Defined globals' before' := by
  match o with
  | .word (.const _) => trivial
  | .word (.temp id) =>
    obtain ⟨i, hi, harith, hresult⟩ := h
    exact ⟨i, hbefore hi, harith, hresult⟩
  | .address g => exact hglobals h

/-- Every instruction uses only what is defined before it. -/
def Scoped (globals : List Global) (body : List Instr) : Prop :=
  ∀ before i after, body = before ++ i :: after → ∀ o ∈ i.operands, o.Defined globals before

namespace Scoped

variable {globals globals' : List Global} {body : List Instr} {i : Instr}

lemma nil : Scoped globals [] := by
  intro before i after h
  simp at h

lemma mono (h : Scoped globals body) (hglobals : globals ⊆ globals') : Scoped globals' body :=
  fun before i after hbody o ho => (h before i after hbody o ho).mono hglobals (List.Subset.refl _)

/-- One more instruction, which uses only what is defined by the others. -/
lemma concat (h : Scoped globals body) (hi : ∀ o ∈ i.operands, o.Defined globals body) :
    Scoped globals (body ++ [i]) := by
  intro before j after hbody
  rcases List.eq_nil_or_concat after with rfl | ⟨after', k, rfl⟩
  · obtain ⟨rfl, hij⟩ := List.append_inj' hbody rfl
    obtain rfl : i = j := by simpa using hij
    exact hi
  · have hsplit : body ++ [i] = (before ++ j :: after') ++ [k] := by
      simpa using hbody
    exact h before j after' (List.append_inj' hsplit rfl).1

end Scoped

/-! ### Drafts -/

/-- A draft of some expressions with these string literals: its results are numbered in order, its
instructions and its names use only what is defined, and its globals hold the strings. -/
structure Draft.WellFormed (d : Draft) (strings : List Text) : Prop where
  numbered : d.body.filterMap Instr.result? = List.range' 1 d.results
  uses : Scoped d.globals d.body
  values : ∀ name o, d.values.get? name = some o → o.Defined d.globals d.body
  globals : d.globals = strings.mapIdx Global.mk
  noReturn : .ret ∉ d.body

namespace Draft.WellFormed

variable {d : Draft} {strings : List Text}

lemma empty : Draft.empty.WellFormed [] where
  numbered := rfl
  uses := .nil
  values := by simp [Draft.empty, EmptyCollection.emptyCollection]
  globals := rfl
  noReturn := by simp [Draft.empty]

lemma bind (h : d.WellFormed strings) (name : Text) {o : Operand}
    (ho : o.Defined d.globals d.body) : (d.bind name o).WellFormed strings :=
  { h with
    values := by
      intro m p hp
      simp only [Draft.bind, Bindings.get?_insert] at hp
      split at hp
      · obtain rfl : o = p := Option.some.inj hp
        exact ho
      · exact h.values m p hp }

lemma addString (h : d.WellFormed strings) (s : Text) :
    (d.addString s).2.WellFormed (strings ++ [s]) ∧
      (d.addString s).1.Defined (d.addString s).2.globals (d.addString s).2.body := by
  have hsub : d.globals ⊆ (d.addString s).2.globals := List.subset_append_left _ _
  refine ⟨⟨h.numbered, h.uses.mono hsub, ?_, ?_, h.noReturn⟩, ?_⟩
  · exact fun name o ho => (h.values name o ho).mono hsub (List.Subset.refl _)
  · simp [Draft.addString, h.globals]
  · exact List.mem_append_right _ (List.mem_singleton_self _)

/-- One more instruction, with the next number or without a result. -/
lemma concat (h : d.WellFormed strings) {i : Instr} {k : Nat}
    (hi : ∀ o ∈ i.operands, o.Defined d.globals d.body) (hreturn : i ≠ .ret)
    (hresult : i.result?.toList = List.range' (d.results + 1) (k - d.results))
    (hk : d.results ≤ k) :
    Draft.WellFormed { d with body := d.body ++ [i], results := k } strings where
  numbered := by
    have hlast : [i].filterMap Instr.result? = i.result?.toList := by
      cases i <;> rfl
    rw [List.filterMap_append, h.numbered, hlast, hresult, Nat.add_comm d.results 1,
      List.range'_append_1, Nat.add_sub_cancel' hk]
  uses := h.uses.concat hi
  values name o ho := (h.values name o ho).mono (List.Subset.refl _) (List.subset_append_left _ _)
  globals := h.globals
  noReturn := by
    simp [h.noReturn, hreturn.symm]

lemma addArith (h : d.WellFormed strings) (op : Arith) {v w : Word}
    (hv : Operand.Defined d.globals d.body (.word v))
    (hw : Operand.Defined d.globals d.body (.word w)) :
    (d.addArith op v w).2.WellFormed strings ∧
      (d.addArith op v w).1.Defined (d.addArith op v w).2.globals (d.addArith op v w).2.body := by
  constructor
  · refine h.concat ?_ (by simp) ?_ (Nat.le_succ _)
    · simpa [Instr.operands] using ⟨hv, hw⟩
    · simp [Instr.result?]
  · exact ⟨.arith (d.results + 1) op v w, List.mem_append_right _ (List.mem_singleton_self _), rfl,
      rfl⟩

lemma addPrint (h : d.WellFormed strings) {o : Operand} (ho : o.Defined d.globals d.body) :
    (d.addPrint o).WellFormed strings := by
  cases o with
  | word w =>
    refine h.concat ?_ (by simp) ?_ (Nat.le_refl _)
    · simpa [Instr.operands] using ho
    · simp [Instr.result?]
  | address g =>
    refine h.concat ?_ (by simp) ?_ (Nat.le_succ _)
    · simpa [Instr.operands] using ho
    · simp [Instr.result?]

end Draft.WellFormed

/-! ### Lowering -/

section Lowering

variable {d d' : Draft} {o : Operand} {strings : List Text}

/-- Declarations and assignments give a name to the operand of their expression. -/
lemma lower_give_eq_ok {x : Except LoweringError (Operand × Draft)} {name : Text}
    (h : (match x with
      | .error e => Except.error e
      | .ok (v, d₁) => .ok (v, d₁.bind name v)) = .ok (o, d')) :
    ∃ d₁, x = .ok (o, d₁) ∧ d' = d₁.bind name o := by
  rcases x with e | ⟨v, d₁⟩
  · cases h
  · obtain ⟨rfl, rfl⟩ : v = o ∧ d₁.bind name v = d' := by simpa using h
    exact ⟨d₁, rfl, rfl⟩

lemma lower_assignment_eq_ok {name : Text} {expr : Node} {l : Location}
    (h : lower (.assignment name expr l) d = .ok (o, d')) :
    ∃ d₁, lower expr d = .ok (o, d₁) ∧ d' = d₁.bind name o := by
  rw [lower] at h
  split at h
  · cases h
  · exact lower_give_eq_ok h

/-- The operands of an operation are words, and its operator has an instruction. -/
lemma lower_binary_eq_ok {left right : Node} {op : Operator} {l : Location}
    (h : lower (.binary left op right l) d = .ok (o, d')) :
    ∃ v w a d₁ d₂, lower left d = .ok (.word v, d₁) ∧ lower right d₁ = .ok (.word w, d₂) ∧
      d₂.addArith a v w = (o, d') := by
  rw [lower] at h
  rcases hleft : lower left d with e | ⟨v, d₁⟩
  · simp [hleft] at h
  · rcases hright : lower right d₁ with e | ⟨w, d₂⟩
    · simp [hleft, hright] at h
    · simp only [hleft, hright, lowerBinary] at h
      split at h
      · next v w =>
        split at h
        · next a _ => exact ⟨v, w, a, d₁, d₂, rfl, hright, Except.ok.inj h⟩
        · cases h
      · cases h

/-- What is defined in a draft stays defined while more is lowered. -/
lemma lower_subset {n : Node} (h : lower n d = .ok (o, d')) :
    d.globals ⊆ d'.globals ∧ d.body ⊆ d'.body := by
  induction n generalizing d d' o with
  | literal v l =>
    cases v with
    | integer k =>
      obtain ⟨-, rfl⟩ : _ ∧ d = d' := by simpa [lower] using h
      exact ⟨List.Subset.refl _, List.Subset.refl _⟩
    | string s =>
      obtain rfl : (d.addString s).2 = d' := congrArg Prod.snd (Except.ok.inj h)
      exact ⟨List.subset_append_left _ _, List.Subset.refl _⟩
  | declaration name type expr l ih =>
    obtain ⟨d₁, hexpr, rfl⟩ := lower_give_eq_ok h
    have hsubset := ih hexpr
    exact hsubset
  | assignment name expr l ih =>
    obtain ⟨d₁, hexpr, rfl⟩ := lower_assignment_eq_ok h
    have hsubset := ih hexpr
    exact hsubset
  | reference name l =>
    rw [lower] at h
    split at h
    · cases h
    · obtain ⟨-, rfl⟩ : _ ∧ d = d' := by simpa using h
      exact ⟨List.Subset.refl _, List.Subset.refl _⟩
  | binary left op right l ihl ihr =>
    obtain ⟨v, w, a, d₁, d₂, hleft, hright, hadd⟩ := lower_binary_eq_ok h
    obtain rfl : (d₂.addArith a v w).2 = d' := congrArg Prod.snd hadd
    obtain ⟨hglobals₁, hbody₁⟩ := ihl hleft
    obtain ⟨hglobals₂, hbody₂⟩ := ihr hright
    exact ⟨fun g hg => hglobals₂ (hglobals₁ hg),
      fun i hi => List.mem_append_left _ (hbody₂ (hbody₁ hi))⟩

/-- **Lowering an expression keeps a draft well-formed**, adds the strings of the expression to it,
and yields an operand that is defined. -/
theorem lower_wellFormed {n : Node} (h : d.WellFormed strings) (hn : lower n d = .ok (o, d')) :
    d'.WellFormed (strings ++ n.strings) ∧ o.Defined d'.globals d'.body := by
  induction n generalizing d d' o strings with
  | literal v l =>
    cases v with
    | integer k =>
      obtain ⟨rfl, rfl⟩ : .word (.const k) = o ∧ d = d' := by simpa [lower] using hn
      rw [Node.strings, List.append_nil]
      exact ⟨h, trivial⟩
    | string s =>
      obtain ⟨rfl, rfl⟩ : (d.addString s).1 = o ∧ (d.addString s).2 = d' :=
        Prod.mk.inj (Except.ok.inj hn)
      exact h.addString s
  | declaration name type expr l ih =>
    obtain ⟨d₁, hexpr, rfl⟩ := lower_give_eq_ok hn
    obtain ⟨hd₁, ho⟩ := ih h hexpr
    exact ⟨hd₁.bind name ho, ho⟩
  | assignment name expr l ih =>
    obtain ⟨d₁, hexpr, rfl⟩ := lower_assignment_eq_ok hn
    obtain ⟨hd₁, ho⟩ := ih h hexpr
    exact ⟨hd₁.bind name ho, ho⟩
  | reference name l =>
    rw [lower] at hn
    split at hn
    · cases hn
    · next v hv =>
      obtain ⟨rfl, rfl⟩ : v = o ∧ d = d' := by simpa using hn
      rw [Node.strings, List.append_nil]
      exact ⟨h, h.values name v hv⟩
  | binary left op right l ihl ihr =>
    obtain ⟨v, w, a, d₁, d₂, hleft, hright, hadd⟩ := lower_binary_eq_ok hn
    obtain ⟨rfl, rfl⟩ := Prod.mk.inj hadd
    obtain ⟨hd₁, hv⟩ := ihl h hleft
    obtain ⟨hd₂, hw⟩ := ihr hd₁ hright
    obtain ⟨hglobals, hbody⟩ := lower_subset hright
    rw [Node.strings, ← List.append_assoc]
    -- the left operand is still defined behind the code of the right one
    exact hd₂.addArith a (hv.mono hglobals hbody) hw

lemma lowerAll_wellFormed {nodes : List Node} (h : d.WellFormed strings)
    (hnodes : lowerAll nodes d = .ok d') :
    d'.WellFormed (strings ++ nodes.flatMap Node.strings) := by
  induction nodes generalizing d strings with
  | nil =>
    obtain rfl : d = d' := Except.ok.inj hnodes
    rwa [List.flatMap_nil, List.append_nil]
  | cons n nodes ih =>
    rw [lowerAll_cons] at hnodes
    rcases hn : lower n d with e | ⟨o, d₁⟩
    · simp [hn] at hnodes
    · rw [hn] at hnodes
      rw [List.flatMap_cons, ← List.append_assoc]
      exact ih (lower_wellFormed h hn).1 hnodes

end Lowering

/-! ### Modules -/

/-- A module for a script with these string literals is well-formed. -/
structure Module.WellFormed (m : Module) (strings : List Text) : Prop where
  /-- Arithmetic instructions and calls of `puts` are numbered from one, in order. -/
  numbered : ∃ k, m.body.filterMap Instr.result? = List.range' 1 k
  /-- A temporary is used only behind the arithmetic instruction that it is the result of, and only
  globals of the module are used. -/
  uses : Scoped m.globals m.body
  /-- Arithmetic and `print` get numbers, and `puts` gets addresses of strings. -/
  typed : ∀ i ∈ m.body, i.operands.map Operand.type = i.signature
  /-- There are as many globals as string literals. -/
  length_globals : m.globals.length = strings.length
  /-- The global with the number `i` is defined with the bytes of the `i`-th string and a NUL byte,
  and this is also the size of the array that its address is taken of. -/
  globals : ∀ i s, strings[i]? = some s → ∃ g, m.globals[i]? = some g ∧
    g.name = ".str." ++ Text.ofNat i ∧ g.bytes = s.bytes ++ [0] ∧ g.size = s.size + 1 ∧
    g.text = definition (".str." ++ Text.ofNat i) (s.bytes ++ [0])
  /-- No two globals have the same name, and none has that of the format of `printf`. -/
  nodup : (formatName :: m.globals.map Global.name).Nodup
  /-- `main` ends with its only return. -/
  returns : ∃ code, m.body = code ++ [.ret] ∧ .ret ∉ code

lemma Instr.map_type_operands (i : Instr) : i.operands.map Operand.type = i.signature := by
  cases i <;> rfl

lemma map_name_mapIdx (strings : List Text) :
    (strings.mapIdx Global.mk).map Global.name
      = (List.range strings.length).map fun i => ".str." ++ Text.ofNat i := by
  refine List.ext_getElem (by simp) fun i hi hi' => ?_
  simp [Global.name]

/-- The names of the globals differ by their numbers, and from the name of the format by their first
characters. -/
lemma nodup_names (strings : List Text) :
    (formatName :: (strings.mapIdx Global.mk).map Global.name).Nodup := by
  rw [map_name_mapIdx, List.nodup_cons]
  constructor
  · intro hmem
    obtain ⟨i, -, hi⟩ := List.mem_map.1 hmem
    have hsecond := congrArg (fun t => t.bytes[1]?) hi
    simp only [Text.bytes_append] at hsecond
    rw [List.getElem?_append_left (by decide)] at hsecond
    exact absurd hsecond (by decide)
  · refine List.Nodup.map (fun i j hij => ?_) List.nodup_range
    exact Text.ofNat_injective (Text.append_left_injective _ hij)

namespace Draft.WellFormed

variable {d : Draft} {strings : List Text}

/-- Printing entries of the table of names. -/
lemma foldl_addPrint (h : d.WellFormed strings) {entries : List (Text × Operand)}
    (hentries : ∀ e ∈ entries, d.values.get? e.1 = some e.2) :
    (entries.foldl (fun d e => d.addPrint e.2) d).WellFormed strings := by
  induction entries generalizing d with
  | nil => exact h
  | cons e entries ih =>
    obtain ⟨he, hrest⟩ := List.forall_mem_cons.1 hentries
    have hvalues : (d.addPrint e.2).values = d.values := by
      cases e.2 <;> rfl
    refine ih (h.addPrint (h.values _ _ he)) ?_
    rw [hvalues]
    exact hrest

lemma finish (h : d.WellFormed strings) : d.finish.WellFormed strings := by
  have hprinted := h.foldl_addPrint fun e he => Bindings.get?_of_mem_entries (b := d.values) he
  have hglobals : d.finish.globals = strings.mapIdx Global.mk := hprinted.globals
  have hnumbered : ∃ k, d.finish.body.filterMap Instr.result? = List.range' 1 k := by
    refine ⟨_, Eq.trans ?_ hprinted.numbered⟩
    rw [Draft.finish, List.filterMap_append]
    exact List.append_nil _
  refine ⟨hnumbered, ?_, fun i _ => i.map_type_operands, ?_, ?_, ?_, ⟨_, rfl, hprinted.noReturn⟩⟩
  · exact hprinted.uses.concat (by simp [Instr.operands])
  · rw [hglobals, List.length_mapIdx]
  · intro i s hs
    refine ⟨⟨i, s⟩, ?_, rfl, rfl, ?_, rfl⟩
    · rw [hglobals, List.getElem?_mapIdx, hs]
      rfl
    · simp [Global.size, Global.bytes, Text.size]
  · rw [hglobals]
    exact nodup_names strings

end Draft.WellFormed

/-- **The module of a script is well-formed.**  Its globals hold the string literals of the script,
in the order of their evaluation. -/
theorem run_wellFormed {nodes : List Node} {m : Module} (h : (Generator.mk nodes).run.1 = .ok m) :
    m.WellFormed (nodes.flatMap Node.strings) := by
  obtain ⟨d, hd, rfl⟩ := Generator.run_eq_ok_iff.1 h
  have hdraft := lowerAll_wellFormed Draft.WellFormed.empty hd
  rw [List.nil_append] at hdraft
  exact hdraft.finish

/-- `let s = "a"`, `let a = 1 + let y = 2 * 3`, `let t = s` and `s = "b"`. -/
def rebindings : List Node :=
  [.declaration "s" none (.literal (.string "a") ⟨1, 9⟩) ⟨1, 1⟩,
    .declaration "a" none
      (.binary (.literal (.integer 1) ⟨2, 9⟩) .plus
        (.declaration "y" none
          (.binary (.literal (.integer 2) ⟨2, 21⟩) .times (.literal (.integer 3) ⟨2, 25⟩) ⟨2, 23⟩)
          ⟨2, 13⟩) ⟨2, 11⟩) ⟨2, 1⟩,
    .declaration "t" none (.reference "s" ⟨3, 9⟩) ⟨3, 1⟩,
    .assignment "s" (.literal (.string "b") ⟨4, 5⟩) ⟨4, 1⟩]

/-- A string that another name keeps, and calls of `print` around those of `puts`, which take the
numbers three and four. -/
theorem run_wellFormed_rebindings :
    ∃ m, (Generator.mk rebindings).run.1 = .ok m ∧
      m.body = [.arith 1 .mul (.const 2) (.const 3), .arith 2 .add (.const 1) (.temp 1),
        .print (.temp 2), .puts 3 ⟨1, "b"⟩, .puts 4 ⟨0, "a"⟩, .print (.temp 1), .ret] ∧
      m.WellFormed ["a", "b"] := by
  have hlowered : ∃ d, lowerAll rebindings Draft.empty = .ok d := ⟨_, rfl⟩
  obtain ⟨d, hd⟩ := hlowered
  have hm : (Generator.mk rebindings).run.1 = .ok d.finish :=
    Generator.run_eq_ok_iff.2 ⟨d, hd, rfl⟩
  refine ⟨d.finish, hm, ?_, run_wellFormed hm⟩
  cases hd
  decide +kernel

end Llvm

end LetScript
