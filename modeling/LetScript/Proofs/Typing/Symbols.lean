import LetScript.Proofs.Typing.Names
import LetScript.Proofs.Typing.Rules

/-!
# With and without a symbol table

A symbol table makes the checker stricter.  Single errors may come and go with it: in `x + 1 + "a"`
the checker without a table finds that the number and the string do not fit, while the one with a
table reports `x` and says nothing more about the sum.  But a script that passes with a table passes
without one, too.  If it passes with a table, then all of its expressions have types by the rules,
and the checker without a table knows the type of each of them or nothing
(`Typing.exists_passes_none`).

Written types that do not exist are the same errors in both cases, and for scripts that use no names
the two cases do not differ.
-/

namespace LetScript

/-! ### Scripts that pass -/

/-- What is known of an expression does not contradict its type. -/
def Resolution.Admits (r : Resolution) (t : Ty) : Prop := r = .unknown ∨ r = .known t

lemma joinOperands_of_admits {a b : Resolution} {t : Ty} (ha : a.Admits t) (hb : b.Admits t)
    (l : Location) : ∃ r, joinOperands l a b = (r, []) ∧ r.Admits t := by
  rcases ha with rfl | rfl
  · exact ⟨b, joinOperands_unknown_left l b, hb⟩
  · rcases hb with rfl | rfl
    · exact ⟨.known t, joinOperands_unknown_right l _, .inr rfl⟩
    · exact ⟨.known t, joinOperands_known_iff.2 ⟨rfl, rfl⟩, .inr rfl⟩

/-- An expression that has a type by the rules passes without a symbol table. -/
lemma Typing.exists_passes_none {Γ Γ' : TypeEnv} {n : Node} {t : Ty} (h : Typing Γ n t Γ') :
    ∃ r, Passes none n r none ∧ r.Admits t := by
  induction h with
  | integer => exact ⟨.known .integer, rfl, .inr rfl⟩
  | string => exact ⟨.known .string, rfl, .inr rfl⟩
  | @binary _ _ _ _ _ _ l _ _ _ ihl ihr =>
    obtain ⟨a, hleft, ha⟩ := ihl
    obtain ⟨b, hright, hb⟩ := ihr
    obtain ⟨r, hjoin, hr⟩ := joinOperands_of_admits ha hb l
    exact ⟨r, passes_binary_iff.2 ⟨a, b, none, hleft, hright, hjoin⟩, hr⟩
  | declaration _ ih =>
    obtain ⟨a, hexpr, ha⟩ := ih
    exact ⟨a, passes_declaration_iff.2 ⟨a, none, hexpr, rfl, rfl⟩, ha⟩
  | @annotated _ _ _ written _ _ t _ hwritten ih =>
    obtain ⟨a, hexpr, ha⟩ := ih
    have hdeclares : Declares (some written) a (.known t) := by
      refine ⟨t, ofName?_eq_some_iff.2 hwritten, fun u hu => ?_, rfl⟩
      rcases ha with rfl | rfl
      · cases hu
      · exact Resolution.known.inj hu
    exact ⟨.known t, passes_declaration_iff.2 ⟨a, none, hexpr, hdeclares, rfl⟩, .inr rfl⟩
  | assignment _ _ ih =>
    obtain ⟨a, hexpr, ha⟩ := ih
    exact ⟨a, passes_assignment_iff.2 ⟨hexpr, by simp⟩, ha⟩
  | reference _ => exact ⟨.unknown, rfl, .inl rfl⟩

lemma TypingAll.inferAll_none {Γ Γ' : TypeEnv} {nodes : List Node} (h : TypingAll Γ nodes Γ') :
    inferAll none nodes = (none, []) := by
  induction h with
  | nil => rfl
  | cons hn _ ih =>
    obtain ⟨r, hpasses, -⟩ := hn.exists_passes_none
    exact inferAll_cons_eq_nil_iff.2 ⟨r, none, hpasses, ih⟩

/-! ### Written types -/

/-- Whether the error reports a written type that does not exist. -/
def TypeError.isInvalidType : TypeError → Bool
  | invalidType _ _ => true
  | mismatched _ _ _ | undefinedVariable _ _ => false

/-- The error of a written type, if there is no such type. -/
def TypeName.errors (written : TypeName) : List TypeError :=
  if Ty.ofName? written.name = none then [.invalidType written.location written.name] else []

/-- The errors of the types that are written in an expression, those inside first. -/
def Node.invalidTypes : Node → List TypeError
  | literal _ _ => []
  | binary left _ right _ => left.invalidTypes ++ right.invalidTypes
  | declaration _ type expr _ => expr.invalidTypes ++ (type.map TypeName.errors).getD []
  | assignment _ expr _ => expr.invalidTypes
  | reference _ _ => []

lemma OnlyMismatches.filter_isInvalidType {errors : List TypeError} (h : OnlyMismatches errors) :
    errors.filter TypeError.isInvalidType = [] := h.filter_eq_nil fun _ _ _ => rfl

/-- The scope has no part in what is reported of written types. -/
lemma filter_isInvalidType_infer (scope : Scope) (n : Node) :
    (infer scope n).errors.filter TypeError.isInvalidType = n.invalidTypes := by
  induction n generalizing scope with
  | literal v l => cases v <;> rfl
  | binary left op right l ihl ihr =>
    simp only [infer, Node.invalidTypes, List.filter_append, ihl, ihr,
      (onlyMismatches_joinOperands _ _ _).filter_isInvalidType, List.append_nil]
  | declaration name type expr l ih =>
    cases type with
    | none => simp [infer, Node.invalidTypes, ih]
    | some written =>
      cases hty : Ty.ofName? written.name with
      | none => simp [infer, Node.invalidTypes, TypeName.errors, TypeError.isInvalidType, hty, ih]
      | some declared =>
        simp [infer, Node.invalidTypes, TypeName.errors, hty, ih,
          (onlyMismatches_conform _ _ _).filter_isInvalidType]
  | assignment name expr l ih =>
    rw [Node.invalidTypes, ← ih scope]
    cases hscope : (infer scope expr).scope with
    | none => simp only [infer, hscope]
    | some table =>
      cases hname : table.get? name with
      | none =>
        rw [infer_assignment_of_none hscope hname, List.filter_append]
        exact List.append_nil _
      | some recorded =>
        rw [infer_assignment_of_some hscope hname, List.filter_append,
          (onlyMismatches_reassign _ _ _).filter_isInvalidType, List.append_nil]
  | reference name l =>
    cases scope with
    | none => rfl
    | some table =>
      rw [Node.invalidTypes, infer]
      cases table.get? name <;> rfl

lemma filter_isInvalidType_inferAll (scope : Scope) (nodes : List Node) :
    (inferAll scope nodes).2.filter TypeError.isInvalidType = nodes.flatMap Node.invalidTypes := by
  induction nodes generalizing scope with
  | nil => rfl
  | cons n nodes ih =>
    rw [inferAll, List.filter_append, filter_isInvalidType_infer, ih, List.flatMap_cons]

/-! ### Scripts without names -/

/-- No part of the expression is a reference or an assignment. -/
def Node.Nameless (n : Node) : Prop := ∀ m ∈ n.parts, m.usesName = false

instance (n : Node) : Decidable n.Nameless := inferInstanceAs (Decidable (∀ m ∈ n.parts, _))

/-- Without names, the scope has no part in what is inferred. -/
lemma infer_of_nameless {n : Node} (h : n.Nameless) (scope scope' : Scope) :
    (infer scope n).type = (infer scope' n).type ∧
      (infer scope n).errors = (infer scope' n).errors := by
  induction n generalizing scope scope' with
  | literal v l => cases v <;> exact ⟨rfl, rfl⟩
  | binary left op right l ihl ihr =>
    obtain ⟨-, hparts⟩ := List.forall_mem_cons.1 h
    obtain ⟨hleft, hright⟩ := List.forall_mem_append.1 hparts
    obtain ⟨htypel, herrorsl⟩ := ihl hleft scope scope'
    obtain ⟨htyper, herrorsr⟩ := ihr hright (infer scope left).scope (infer scope' left).scope
    simp only [infer, htypel, htyper, herrorsl, herrorsr, and_self]
  | declaration name type expr l ih =>
    obtain ⟨-, hexpr⟩ := List.forall_mem_cons.1 h
    obtain ⟨htype, herrors⟩ := ih hexpr scope scope'
    cases type with
    | none => exact ⟨htype, herrors⟩
    | some written =>
      simp only [infer]
      cases Ty.ofName? written.name <;> simp only [htype, herrors, and_self]
  | assignment name expr l _ => cases h _ List.mem_cons_self
  | reference name l => cases h _ List.mem_cons_self

lemma inferAll_of_nameless {nodes : List Node} (h : ∀ n ∈ nodes, n.Nameless)
    (scope scope' : Scope) : (inferAll scope nodes).2 = (inferAll scope' nodes).2 := by
  induction nodes generalizing scope scope' with
  | nil => rfl
  | cons n nodes ih =>
    obtain ⟨hn, hnodes⟩ := List.forall_mem_cons.1 h
    have hrest := ih hnodes (infer scope n).scope (infer scope' n).scope
    simp only [inferAll, (infer_of_nameless hn scope scope').2, hrest]

/-- Where names can neither be assigned nor used, none are. -/
lemma nameless_of_parse {g : Grammar} (hg : g.assignments = false) {tokens : List Token}
    {nodes : List Node} (h : parse g tokens = .ok nodes) : ∀ n ∈ nodes, n.Nameless := by
  intro n hn m hm
  have hregular := (parse_eq_ok_iff_written.1 h).2 n hn m hm
  simpa [Node.regular, hg] using (Bool.and_eq_true_iff.1 hregular).2

/-! ### The two checkers -/

/-- **A symbol table only makes the checker stricter.**  A script without errors when it is checked
with a symbol table has none when it is checked without one.  Both ways report the same written
types that do not exist, in the same order.  And if a script has no reference and no assignment, as
is always so if it was read without assignments, both ways report the same errors. -/
theorem check_symbolTable_stricter (nodes : List Node) :
    (check true nodes = [] → check false nodes = []) ∧
    (check true nodes).filter TypeError.isInvalidType
      = (check false nodes).filter TypeError.isInvalidType ∧
    ((∀ n ∈ nodes, n.Nameless) → check true nodes = check false nodes) ∧
    ∀ precedence tokens, parse ⟨precedence, false⟩ tokens = .ok nodes →
      (∀ n ∈ nodes, n.Nameless) ∧ check true nodes = check false nodes := by
  simp only [check_eq]
  have hsame : (∀ n ∈ nodes, n.Nameless) →
      (inferAll (Scope.initial true) nodes).2 = (inferAll (Scope.initial false) nodes).2 :=
    fun h => inferAll_of_nameless h _ _
  refine ⟨fun h => ?_, ?_, hsame, fun precedence tokens h => ?_⟩
  · have hpass : inferAll (some ∅) nodes = ((inferAll (some ∅) nodes).1, []) := Prod.ext rfl h
    obtain ⟨Γ, hΓ⟩ := exists_typingAll_of_inferAll hpass Records.empty
    exact congrArg Prod.snd hΓ.inferAll_none
  · rw [filter_isInvalidType_inferAll, filter_isInvalidType_inferAll]
  · have hnameless := nameless_of_parse rfl h
    exact ⟨hnameless, hsame hnameless⟩

/-- The tokens of `1 + "a"`. -/
def mixedSumTokens : List Token :=
  [⟨.integer, "1", ⟨1, 1⟩⟩, ⟨.plus, "+", ⟨1, 3⟩⟩, ⟨.string, "a", ⟨1, 5⟩⟩]

/-- The node that they are read as. -/
def mixedSumNode : Node :=
  .binary (.literal (.integer 1) ⟨1, 1⟩) .plus (.literal (.string "a") ⟨1, 5⟩) ⟨1, 3⟩

/-- Names that are declared again, assigned and declared inside an assignment: the script passes
both ways.  A script without names has an error, and has it both ways. -/
theorem check_symbolTable_stricter_redeclarations :
    (check true redeclarations = [] ∧ check false redeclarations = []) ∧
    ((∀ n ∈ unknownType, n.Nameless) ∧ check true unknownType = check false unknownType) ∧
    parse ⟨false, false⟩ mixedSumTokens = .ok [mixedSumNode] ∧
      check true [mixedSumNode] = check false [mixedSumNode] ∧
      check false [mixedSumNode] = [.mismatched ⟨1, 3⟩ "Integer" "String"] := by
  have hpass : check true redeclarations = [] := by decide +kernel
  have hnameless : ∀ n ∈ unknownType, n.Nameless := by decide
  have hparse : parse ⟨false, false⟩ mixedSumTokens = .ok [mixedSumNode] :=
    parse_eq_ok (by decide +kernel)
  obtain ⟨hstricter, -, -, -⟩ := check_symbolTable_stricter redeclarations
  obtain ⟨-, -, hsame, -⟩ := check_symbolTable_stricter unknownType
  obtain ⟨-, -, -, hread⟩ := check_symbolTable_stricter [mixedSumNode]
  exact ⟨⟨hpass, hstricter hpass⟩, ⟨hnameless, hsame hnameless⟩, hparse, (hread _ _ hparse).2,
    by decide +kernel⟩

/-- An error that a symbol table takes away: in `x + 1 + "a"` it is the name that is reported. -/
example :
    let sum : Node := .binary (.binary (.reference "x" ⟨1, 1⟩) .plus
      (.literal (.integer 1) ⟨1, 5⟩) ⟨1, 3⟩) .plus (.literal (.string "a") ⟨1, 9⟩) ⟨1, 7⟩
    check false [sum] = [.mismatched ⟨1, 7⟩ "Integer" "String"] ∧
      check true [sum] = [.undefinedVariable ⟨1, 1⟩ "x"] := by
  decide +kernel

end LetScript
