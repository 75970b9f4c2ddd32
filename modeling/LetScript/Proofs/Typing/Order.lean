import LetScript.Proofs.Token.Places
import LetScript.Proofs.Typing.Unbound

/-!
# The order of type errors

The checker reports the errors inside an expression before it judges the expression itself, and an
error of its own points to the operator, to the written type, to the assigned name, or to the
expression that does not fit: to a place *before* everything inside that may still have errors.  So
type errors come in the order of their places as long as no expression reports an error of its own
behind errors inside it.

For most errors inside this cannot happen: they make the expression around them invalid, and nothing
more is said about it.  What can hide them is a declaration with a written type, which has this type
whatever its expression is, and what does not care is an unknown type or an unknown name.  Already
the two errors of `let x: Foo = 1 + "a"` come in the wrong order.

The main result, `compile_inOrder_iff`, says that this is the only way: the errors of a script are in
order exactly if no expression that the checker comes to reports an error behind errors inside it.
-/

namespace LetScript

/-- Type errors in the order of their places. -/
def InOrder (errors : List TypeError) : Prop :=
  errors.Pairwise fun e e' => e.location ≤ e'.location

instance (errors : List TypeError) : Decidable (InOrder errors) :=
  inferInstanceAs (Decidable (errors.Pairwise _))

/-- The errors inside an expression, which are found before the expression itself is judged. -/
def innerErrors (scope : Scope) : Node → List TypeError
  | .binary left _ right _ =>
    (infer scope left).errors ++ (infer (infer scope left).scope right).errors
  | .declaration _ _ expr _ => (infer scope expr).errors
  | .assignment _ expr _ => (infer scope expr).errors
  | .literal _ _ | .reference _ _ => []

/-- An expression that the checker comes to, and the scope that it comes with. -/
structure Visit where
  /-- The scope. -/
  scope : Scope
  /-- The expression. -/
  node : Node

namespace Visit

/-- The expression reports an error of its own behind errors inside it. -/
def ReportsLate (v : Visit) : Prop :=
  innerErrors v.scope v.node ≠ [] ∧ (infer v.scope v.node).errors ≠ innerErrors v.scope v.node

instance (v : Visit) : Decidable v.ReportsLate := inferInstanceAs (Decidable (_ ∧ _))

end Visit

/-- The expressions that the checker comes to in an expression, itself included. -/
def visits (scope : Scope) : Node → List Visit
  | .literal v l => [⟨scope, .literal v l⟩]
  | .binary left op right l =>
    visits scope left ++ visits (infer scope left).scope right ++ [⟨scope, .binary left op right l⟩]
  | .declaration name type expr l =>
    visits scope expr ++ [⟨scope, .declaration name type expr l⟩]
  | .assignment name expr l => visits scope expr ++ [⟨scope, .assignment name expr l⟩]
  | .reference name l => [⟨scope, .reference name l⟩]

/-- The expressions that the checker comes to in a script. -/
def visitsAll (scope : Scope) : List Node → List Visit
  | [] => []
  | n :: nodes => visits scope n ++ visitsAll (infer scope n).scope nodes

/-! ### Errors of an expression itself -/

/-- An expression puts an error of its own at a place.  Where types are compared, they are known. -/
inductive Blames (scope : Scope) : Node → Location → Prop
  | operator {left right : Node} {op : Operator} {l : Location}
      (hleft : (infer scope left).type ≠ .invalid)
      (hright : (infer (infer scope left).scope right).type ≠ .invalid) :
      Blames scope (.binary left op right l) l
  | type {name : Text} {written : TypeName} {expr : Node} {l : Location} :
      Blames scope (.declaration name (some written) expr l) written.location
  | declared {name : Text} {type : Option TypeName} {expr : Node} {l : Location}
      (hexpr : (infer scope expr).type ≠ .invalid) :
      Blames scope (.declaration name type expr l) expr.location
  | target {name : Text} {expr : Node} {l : Location} : Blames scope (.assignment name expr l) l
  | assigned {name : Text} {expr : Node} {l : Location}
      (hexpr : (infer scope expr).type ≠ .invalid) :
      Blames scope (.assignment name expr l) expr.location
  | reference {name : Text} {l : Location} : Blames scope (.reference name l) l

lemma joinOperands_cases (l : Location) (a b : Resolution) :
    (joinOperands l a b).2 = [] ∨ a ≠ .invalid ∧ b ≠ .invalid ∧
      ∃ t u, joinOperands l a b = (.invalid, [.mismatched l t u]) := by
  rcases a with t | _ | _ <;> rcases b with u | _ | _
  · by_cases htu : t = u
    · exact .inl (by simp [joinOperands, htu])
    · exact .inr ⟨by simp, by simp, t.name, u.name, by simp [joinOperands, htu]⟩
  all_goals exact .inl rfl

lemma conform_cases (l : Location) (declared : Ty) (a : Resolution) :
    (conform l declared a).2 = [] ∨ a ≠ .invalid ∧
      ∃ t u, conform l declared a = (.invalid, [.mismatched l t u]) := by
  rcases a with u | _ | _
  · by_cases htu : declared = u
    · exact .inl (by simp [conform, htu])
    · exact .inr ⟨by simp, declared.name, u.name, by simp [conform, htu]⟩
  all_goals exact .inl rfl

lemma reassign_cases (l : Location) (recorded a : Resolution) :
    (reassign l recorded a).2 = [] ∨ a ≠ .invalid ∧
      ∃ t u, reassign l recorded a = (.invalid, [.mismatched l t u]) := by
  rcases recorded with t | _ | _ <;> rcases a with u | _ | _
  · by_cases htu : t = u
    · exact .inl (by simp [reassign, htu])
    · exact .inr ⟨by simp, t.name, u.name, by simp [reassign, htu]⟩
  all_goals exact .inl rfl

/-- An expression adds at most one error to those inside it, and is invalid then. -/
lemma infer_errors_cases (scope : Scope) (n : Node) :
    (infer scope n).errors = innerErrors scope n ∨
      ∃ e, (infer scope n).errors = innerErrors scope n ++ [e] ∧
        (infer scope n).type = .invalid ∧ Blames scope n e.location := by
  cases n with
  | literal v l => cases v <;> exact .inl rfl
  | binary left op right l =>
    rcases joinOperands_cases l (infer scope left).type (infer (infer scope left).scope right).type
      with h | ⟨hleft, hright, t, u, h⟩
    · exact .inl (by simp [infer, innerErrors, h])
    · exact .inr ⟨.mismatched l t u, by simp [infer, innerErrors, h], by simp [infer, h],
        .operator hleft hright⟩
  | declaration name type expr l =>
    rcases type with _ | written
    · exact .inl rfl
    · rcases hty : Ty.ofName? written.name with _ | declared
      · exact .inr ⟨.invalidType written.location written.name, by simp [infer, innerErrors, hty],
          by simp [infer, hty], .type⟩
      · rcases conform_cases expr.location declared (infer scope expr).type with
          h | ⟨hexpr, t, u, h⟩
        · exact .inl (by simp [infer, innerErrors, hty, h])
        · exact .inr ⟨.mismatched expr.location t u, by simp [infer, innerErrors, hty, h],
            by simp [infer, hty, h], .declared hexpr⟩
  | assignment name expr l =>
    rcases hscope : (infer scope expr).scope with _ | table
    · exact .inl (by simp [infer, innerErrors, hscope])
    · rcases hname : table.get? name with _ | recorded
      · exact .inr ⟨.undefinedVariable l name, by simp [infer, innerErrors, hscope, hname],
          by simp [infer, hscope, hname], .target⟩
      · rcases reassign_cases expr.location recorded (infer scope expr).type with
          h | ⟨hexpr, t, u, h⟩
        · exact .inl (by simp [infer, innerErrors, hscope, hname, h])
        · exact .inr ⟨.mismatched expr.location t u, by simp [infer, innerErrors, hscope, hname, h],
            by simp [infer, hscope, hname, h], .assigned hexpr⟩
  | reference name l =>
    rcases scope with _ | table
    · exact .inl rfl
    · rcases hname : table.get? name with _ | recorded
      · exact .inr ⟨.undefinedVariable l name, by simp [infer, innerErrors, hname],
          by simp [infer, hname], .reference⟩
      · exact .inl (by simp [infer, innerErrors, hname])

lemma infer_errors_of_ne_invalid {scope : Scope} {n : Node}
    (h : (infer scope n).type ≠ .invalid) : (infer scope n).errors = innerErrors scope n := by
  rcases infer_errors_cases scope n with heq | ⟨e, -, htype, -⟩
  · exact heq
  · exact absurd htype h

/-! ### Where errors are -/

variable {scope : Scope} {n left right expr : Node} {op : Operator} {l : Location} {g : Grammar}

lemma Blames.mem_places (h : Blames scope n l) : l ∈ n.places := by
  cases h with
  | operator => simp
  | type => simp
  | declared => simp [Node.location_mem_places]
  | target => simp
  | assigned => simp [Node.location_mem_places]
  | reference => simp

lemma mem_errors_cases {e : TypeError} (he : e ∈ (infer scope n).errors) :
    e ∈ innerErrors scope n ∨ Blames scope n e.location := by
  rcases infer_errors_cases scope n with heq | ⟨e', heq, -, hblames⟩
  · exact .inl (heq ▸ he)
  · rw [heq, List.mem_append, List.mem_singleton] at he
    rcases he with he | rfl
    · exact .inl he
    · exact .inr hblames

/-- Every error of an expression stands at a place of the expression. -/
lemma location_mem_places_of_mem_errors {e : TypeError} (he : e ∈ (infer scope n).errors) :
    e.location ∈ n.places := by
  induction n generalizing scope with
  | literal v l => cases v <;> simp [infer] at he
  | binary left op right l ihl ihr =>
    rcases mem_errors_cases he with hinner | hblames
    · rw [Node.places_binary]
      rcases List.mem_append.1 hinner with hleft | hright
      · exact List.mem_append_left _ (ihl hleft)
      · exact List.mem_append_right _ (List.mem_cons_of_mem l (ihr hright))
    · exact hblames.mem_places
  | declaration name type expr l ih =>
    rcases mem_errors_cases he with hinner | hblames
    · rw [Node.places_declaration]
      exact List.mem_cons_of_mem l (List.mem_append_right _ (ih hinner))
    · exact hblames.mem_places
  | assignment name expr l ih =>
    rcases mem_errors_cases he with hinner | hblames
    · rw [Node.places_assignment]
      exact List.mem_cons_of_mem l (ih hinner)
    · exact hblames.mem_places
  | reference name l =>
    rcases mem_errors_cases he with hinner | hblames
    · cases hinner
    · exact hblames.mem_places

/-! ### Errors inside are behind -/

lemma operands_ne_invalid (h : (infer scope (.binary left op right l)).type ≠ .invalid) :
    (infer scope left).type ≠ .invalid ∧
      (infer (infer scope left).scope right).type ≠ .invalid := by
  refine ⟨fun hleft => h ?_, fun hright => h ?_⟩
  · simp [infer, joinOperands, hleft]
  · rw [infer, hright]
    cases (infer scope left).type <;> rfl

/-- An error in an expression that ends neither in a declaration nor in an assignment makes the
expression invalid. -/
lemma errors_eq_nil_of_closed (hregular : n.Regular g) (hclosed : n.isOpen = false)
    (htype : (infer scope n).type ≠ .invalid) : (infer scope n).errors = [] := by
  induction n generalizing scope with
  | binary left op right l ihl ihr =>
    obtain ⟨hleft, hregularl, hregularr⟩ := hregular.operands
    obtain ⟨htypel, htyper⟩ := operands_ne_invalid htype
    rw [infer_errors_of_ne_invalid htype, innerErrors, ihl hregularl hleft htypel,
      ihr hregularr hclosed htyper, List.append_nil]
  | declaration name type expr l _ => simp [Node.isOpen] at hclosed
  | assignment name expr l _ => simp [Node.isOpen] at hclosed
  | _ => exact infer_errors_of_ne_invalid htype

lemma lt_of_pairwise_binary (h : (Node.binary left op right l).places.Pairwise (· < ·)) {p : Location}
    (hp : p ∈ right.places) : l < p := by
  rw [Node.places_binary, List.pairwise_append, List.pairwise_cons] at h
  exact h.2.1.1 p hp

/-- In an expression that is not invalid, all errors are behind its own place. -/
lemma location_lt_of_mem_errors (hregular : n.Regular g) (hplaces : n.places.Pairwise (· < ·))
    (htype : (infer scope n).type ≠ .invalid) {e : TypeError} (he : e ∈ (infer scope n).errors) :
    n.location < e.location := by
  rw [infer_errors_of_ne_invalid htype] at he
  cases n with
  | binary left op right l =>
    obtain ⟨hleft, hregularl, -⟩ := hregular.operands
    -- an error in the left operand, which is closed, would have made the operation invalid
    have hnil := errors_eq_nil_of_closed hregularl hleft (operands_ne_invalid htype).1
    rw [innerErrors, hnil, List.nil_append] at he
    exact lt_of_pairwise_binary hplaces (location_mem_places_of_mem_errors he)
  | declaration name type expr l =>
    rw [Node.places_declaration, List.pairwise_cons] at hplaces
    exact hplaces.1 _ (List.mem_append_right _ (location_mem_places_of_mem_errors he))
  | assignment name expr l =>
    rw [Node.places_assignment, List.pairwise_cons] at hplaces
    exact hplaces.1 _ (location_mem_places_of_mem_errors he)
  | literal v l => cases he
  | reference name l => cases he

/-- An error of an expression itself stands before all errors inside the expression. -/
lemma Blames.lt_of_mem_innerErrors (h : Blames scope n l) (hregular : n.Regular g)
    (hplaces : n.places.Pairwise (· < ·)) {e : TypeError} (he : e ∈ innerErrors scope n) :
    l < e.location := by
  cases h with
  | operator hleft _ =>
    obtain ⟨hclosed, hregularl, -⟩ := hregular.operands
    rw [innerErrors, errors_eq_nil_of_closed hregularl hclosed hleft, List.nil_append] at he
    exact lt_of_pairwise_binary hplaces (location_mem_places_of_mem_errors he)
  | type =>
    rw [Node.places_declaration, List.pairwise_cons, List.pairwise_append] at hplaces
    exact hplaces.2.2.2 _ (by simp) _ (location_mem_places_of_mem_errors he)
  | declared hexpr =>
    rw [Node.places_declaration, List.pairwise_cons, List.pairwise_append] at hplaces
    exact location_lt_of_mem_errors (Node.regular_declaration.1 hregular) hplaces.2.2.1 hexpr he
  | target =>
    rw [Node.places_assignment, List.pairwise_cons] at hplaces
    exact hplaces.1 _ (location_mem_places_of_mem_errors he)
  | assigned hexpr =>
    rw [Node.places_assignment, List.pairwise_cons] at hplaces
    exact location_lt_of_mem_errors (Node.regular_assignment.1 hregular).2 hplaces.2 hexpr he
  | reference => cases he

/-! ### Errors in order -/

lemma inOrder_append {es fs : List TypeError}
    (h : ∀ e ∈ es, ∀ f ∈ fs, e.location < f.location) :
    InOrder (es ++ fs) ↔ InOrder es ∧ InOrder fs := by
  rw [InOrder, List.pairwise_append, InOrder, InOrder]
  constructor
  · exact fun hes => ⟨hes.1, hes.2.1⟩
  · exact fun hes => ⟨hes.1, hes.2, fun e he f hf => le_of_lt (h e he f hf)⟩

/-- An expression is in order if the errors inside it are, and if it adds none behind them. -/
lemma inOrder_errors_iff (hregular : n.Regular g) (hplaces : n.places.Pairwise (· < ·)) :
    InOrder (infer scope n).errors ↔
      InOrder (innerErrors scope n) ∧ ¬ Visit.ReportsLate ⟨scope, n⟩ := by
  rcases infer_errors_cases scope n with heq | ⟨e, heq, -, hblames⟩
  · simp [Visit.ReportsLate, heq]
  · have hlate : Visit.ReportsLate ⟨scope, n⟩ ↔ innerErrors scope n ≠ [] := by
      simp [Visit.ReportsLate, heq]
    rw [hlate, not_not, heq, InOrder, List.pairwise_append]
    constructor
    · rintro ⟨hinner, -, hbefore⟩
      refine ⟨hinner, List.eq_nil_iff_forall_not_mem.2 fun f hf => ?_⟩
      -- `f` would be both before and behind the error of the expression itself
      have hle : f.location ≤ e.location := hbefore f hf e (by simp)
      exact absurd hle (not_le_of_gt (hblames.lt_of_mem_innerErrors hregular hplaces hf))
    · rintro ⟨hinner, hnil⟩
      exact ⟨hinner, by simp, by simp [hnil]⟩

/-- **The errors of an expression are in order exactly if no expression that the checker comes to
reports late.** -/
theorem inOrder_infer_iff (hregular : n.Regular g) (hplaces : n.places.Pairwise (· < ·)) :
    InOrder (infer scope n).errors ↔ ∀ v ∈ visits scope n, ¬ v.ReportsLate := by
  induction n generalizing scope with
  | literal v l =>
    rw [inOrder_errors_iff hregular hplaces]
    simp [innerErrors, InOrder, visits]
  | reference name l =>
    rw [inOrder_errors_iff hregular hplaces]
    simp [innerErrors, InOrder, visits]
  | declaration name type expr l ih =>
    have hexpr : expr.places.Pairwise (· < ·) := by
      rw [Node.places_declaration, List.pairwise_cons, List.pairwise_append] at hplaces
      exact hplaces.2.2.1
    rw [inOrder_errors_iff hregular hplaces, innerErrors,
      ih (Node.regular_declaration.1 hregular) hexpr]
    simp [visits, or_imp, forall_and]
  | assignment name expr l ih =>
    have hexpr : expr.places.Pairwise (· < ·) := by
      rw [Node.places_assignment, List.pairwise_cons] at hplaces
      exact hplaces.2
    rw [inOrder_errors_iff hregular hplaces, innerErrors,
      ih (Node.regular_assignment.1 hregular).2 hexpr]
    simp [visits, or_imp, forall_and]
  | binary left op right l ihl ihr =>
    obtain ⟨-, hregularl, hregularr⟩ := hregular.operands
    obtain ⟨hleft, hright, hacross⟩ : left.places.Pairwise (· < ·) ∧
        right.places.Pairwise (· < ·) ∧ ∀ p ∈ left.places, ∀ q ∈ right.places, p < q := by
      rw [Node.places_binary, List.pairwise_append, List.pairwise_cons] at hplaces
      exact ⟨hplaces.1, hplaces.2.1.2, fun p hp q hq => hplaces.2.2 p hp q (by simp [hq])⟩
    have hbefore : ∀ e ∈ (infer scope left).errors,
        ∀ f ∈ (infer (infer scope left).scope right).errors, e.location < f.location :=
      fun e he f hf =>
        hacross _ (location_mem_places_of_mem_errors he) _ (location_mem_places_of_mem_errors hf)
    rw [inOrder_errors_iff hregular hplaces, innerErrors, inOrder_append hbefore,
      ihl hregularl hleft, ihr hregularr hright]
    simp [visits, or_imp, forall_and, and_assoc]

/-! ### Scripts -/

lemma location_mem_places_of_mem_inferAll {nodes : List Node} {e : TypeError}
    (he : e ∈ (inferAll scope nodes).2) : e.location ∈ nodes.flatMap Node.places := by
  induction nodes generalizing scope with
  | nil => cases he
  | cons n nodes ih =>
    rw [List.flatMap_cons]
    rcases List.mem_append.1 he with hfirst | hrest
    · exact List.mem_append_left _ (location_mem_places_of_mem_errors hfirst)
    · exact List.mem_append_right _ (ih hrest)

/-- Errors of earlier expressions stand before errors of later ones. -/
lemma location_lt_of_append {before after : List Node} {scope' : Scope}
    (hplaces : ((before ++ after).flatMap Node.places).Pairwise (· < ·)) {e f : TypeError}
    (he : e ∈ (inferAll scope before).2) (hf : f ∈ (inferAll scope' after).2) :
    e.location < f.location := by
  rw [List.flatMap_append, List.pairwise_append] at hplaces
  exact hplaces.2.2 _ (location_mem_places_of_mem_inferAll he) _
    (location_mem_places_of_mem_inferAll hf)

lemma inOrder_inferAll_iff {nodes : List Node} (hregular : ∀ n ∈ nodes, n.Regular g)
    (hplaces : (nodes.flatMap Node.places).Pairwise (· < ·)) :
    InOrder (inferAll scope nodes).2 ↔ ∀ v ∈ visitsAll scope nodes, ¬ v.ReportsLate := by
  induction nodes generalizing scope with
  | nil => simp [inferAll, InOrder, visitsAll]
  | cons n nodes ih =>
    obtain ⟨hn, hnodes⟩ := List.forall_mem_cons.1 hregular
    rw [List.flatMap_cons, List.pairwise_append] at hplaces
    obtain ⟨hfirst, hrest, hacross⟩ := hplaces
    have hbefore : ∀ e ∈ (infer scope n).errors,
        ∀ f ∈ (inferAll (infer scope n).scope nodes).2, e.location < f.location :=
      fun e he f hf =>
        hacross _ (location_mem_places_of_mem_errors he) _ (location_mem_places_of_mem_inferAll hf)
    rw [inferAll, inOrder_append hbefore, inOrder_infer_iff hn hfirst, ih hnodes hrest]
    simp [visitsAll, or_imp, forall_and]

/-- **The order of the type errors of a script.**  Let a script compile, with whatever settings.  Its
type errors are in the order of their places exactly if no expression that the checker comes to
reports an error of its own behind errors inside it.  Between the expressions of the script the order
is always right: wherever the script is divided between two of them, the errors of the first part
come first, and their places are before those of the errors of the second part. -/
theorem compile_inOrder_iff {s : Settings} {script : Text} {p : Program}
    (h : compile s script = .ok p) :
    (InOrder p.typeErrors ↔
      ∀ v ∈ visitsAll (Scope.initial s.switches.symbolTable) p.nodes, ¬ v.ReportsLate) ∧
    ∀ before after, p.nodes = before ++ after →
      let scope := (inferAll (Scope.initial s.switches.symbolTable) before).1
      p.typeErrors = check s.switches.symbolTable before ++ (inferAll scope after).2 ∧
      ∀ e ∈ check s.switches.symbolTable before, ∀ f ∈ (inferAll scope after).2,
        e.location < f.location := by
  obtain ⟨tokens, htokens, hparse⟩ := exists_parse_of_compile h
  have hplaces : (p.nodes.flatMap Node.places).Pairwise (· < ·) :=
    pairwise_places_of_parse htokens hparse
  have hregular : ∀ n ∈ p.nodes, n.Regular s.grammar := (parse_eq_ok_iff_written.1 hparse).2
  simp only [compile_typeErrors h, check_eq]
  refine ⟨inOrder_inferAll_iff hregular hplaces, fun before after hnodes => ⟨?_, ?_⟩⟩
  · rw [hnodes]
    exact inferAll_append _ before after
  · rw [hnodes] at hplaces
    exact fun e he f hf => location_lt_of_append hplaces he hf

/-- The nodes of `x + let y: Float = 1` and `let z: String = 2`. -/
def mistaken : List Node :=
  [.binary (.reference "x" ⟨1, 1⟩) .plus
      (.declaration "y" (some ⟨"Float", ⟨1, 12⟩⟩) (.literal (.integer 1) ⟨1, 20⟩) ⟨1, 5⟩) ⟨1, 3⟩,
    .declaration "z" (some ⟨"String", ⟨2, 8⟩⟩) (.literal (.integer 2) ⟨2, 17⟩) ⟨2, 1⟩]

/-- Three errors, two of them in one expression, that are reported as they are read. -/
theorem compile_inOrder_iff_mistaken :
    ∃ p, compile guarded "x + let y: Float = 1\nlet z: String = 2" = .ok p ∧
      p.typeErrors.map TypeError.location = [⟨1, 1⟩, ⟨1, 12⟩, ⟨2, 17⟩] ∧
      (∀ v ∈ visitsAll (Scope.initial true) p.nodes, ¬ v.ReportsLate) ∧ InOrder p.typeErrors := by
  have hmistaken : (compile guarded "x + let y: Float = 1\nlet z: String = 2").toOption.map
      Program.nodes = some mistaken := by decide +kernel
  obtain ⟨p, hp, hnodes, herrors⟩ := exists_compile_eq_ok hmistaken
  have hlate : ∀ v ∈ visitsAll (Scope.initial true) p.nodes, ¬ v.ReportsLate := by
    rw [hnodes]
    decide +kernel
  refine ⟨p, hp, ?_, hlate, (compile_inOrder_iff hp).1.2 hlate⟩
  rw [herrors]
  decide +kernel

/-- The nodes of `let x: Foo = 1 + "a"`. -/
def unknownType : List Node :=
  [.declaration "x" (some ⟨"Foo", ⟨1, 8⟩⟩)
    (.binary (.literal (.integer 1) ⟨1, 14⟩) .plus (.literal (.string "a") ⟨1, 18⟩) ⟨1, 16⟩) ⟨1, 1⟩]

/-- The mismatch inside `let x: Foo = 1 + "a"` is reported before the unknown type in front of
it. -/
theorem compile_unknownType :
    ∃ p, compile {} "let x: Foo = 1 + \"a\"" = .ok p ∧
      p.typeErrors = [.mismatched ⟨1, 16⟩ "Integer" "String", .invalidType ⟨1, 8⟩ "Foo"] ∧
      ¬ InOrder p.typeErrors := by
  have hunknown : (compile {} "let x: Foo = 1 + \"a\"").toOption.map Program.nodes
      = some unknownType := by decide +kernel
  obtain ⟨p, hp, hnodes, herrors⟩ := exists_compile_eq_ok hunknown
  have htwo : p.typeErrors
      = [.mismatched ⟨1, 16⟩ "Integer" "String", .invalidType ⟨1, 8⟩ "Foo"] := by
    rw [herrors]
    decide +kernel
  refine ⟨p, hp, htwo, ?_⟩
  rw [htwo]
  decide +kernel

end LetScript
