import LetScript.Proofs.Node.Precedence

/-!
# Trees that group differently

Two operators that follow one another can be grouped in two ways, `(a ∘ b) • c` and `a ∘ (b • c)`.
One tree *regroups* to another if some steps of this kind, anywhere inside it and all from the left
to the right, lead from the one to the other.

The trees that are read with precedence regroup to those that are read without it
(`exists_parse_regroups`).  So whatever one such step does not change, the switch for precedence does
not change either; what the tokens are and how they are read plays no further part.
-/

namespace LetScript

/-- The second tree comes from the first one by regrouping operators to the right. -/
inductive Regroups : Node → Node → Prop
  | refl (n : Node) : Regroups n n
  | rotate (a b c : Node) (op op' : Operator) (l l' : Location) :
      Regroups (.binary (.binary a op b l) op' c l') (.binary a op (.binary b op' c l') l)
  | binary {left left' right right' : Node} (op : Operator) (l : Location)
      (hleft : Regroups left left') (hright : Regroups right right') :
      Regroups (.binary left op right l) (.binary left' op right' l)
  | declaration {expr expr' : Node} (name : Text) (type : Option TypeName) (l : Location)
      (hexpr : Regroups expr expr') :
      Regroups (.declaration name type expr l) (.declaration name type expr' l)
  | assignment {expr expr' : Node} (name : Text) (l : Location) (hexpr : Regroups expr expr') :
      Regroups (.assignment name expr l) (.assignment name expr' l)
  | trans {n m k : Node} (hnm : Regroups n m) (hmk : Regroups m k) : Regroups n k

namespace Regroups

variable {n m : Node}

lemma marks_eq (h : Regroups n m) : n.marks = m.marks := by
  induction h with
  | refl n => rfl
  | rotate a b c op op' l l' => simp [Node.marks]
  | binary op l _ _ ihl ihr => simp [Node.marks, ihl, ihr]
  | declaration name type l _ ih => simp [Node.marks, ih]
  | assignment name l _ ih => simp [Node.marks, ih]
  | trans _ _ ih ih' => exact ih.trans ih'

/-- Regrouping does not change the last operand. -/
lemma isOpen_eq (h : Regroups n m) : n.isOpen = m.isOpen := by
  induction h with
  | binary op l _ _ _ ihr => exact ihr
  | trans _ _ ih ih' => exact ih.trans ih'
  | _ => rfl

end Regroups

/-! ### The rightward form of a tree -/

section Rightward

variable {g : Grammar}

/-- A complete tree that groups to the right takes a further operator in at its end. -/
lemma exists_regroups_binary (hg : g.precedence = false) {left right : Node}
    (hclosed : left.isOpen = false) (hleft : left.Regular g) (hright : right.Regular g)
    (op : Operator) (l : Location) : ∃ m, Regroups (.binary left op right l) m ∧ m.Regular g := by
  induction left generalizing op l with
  | binary a op' b l' _ ihb =>
    obtain ⟨hatom, ha, hb⟩ := (Node.regular_binary_of_not_precedence hg).1 hleft
    -- the operator moves to the end of `b`, which is the end of the whole operand
    obtain ⟨m, hm, hregular⟩ := ihb hclosed hb op l
    refine ⟨.binary a op' m l', ?_, ?_⟩
    · exact (Regroups.rotate a b right op' op l' l).trans (.binary op' l' (.refl a) hm)
    · exact (Node.regular_binary_of_not_precedence hg).2 ⟨hatom, ha, hregular⟩
  | declaration name type expr l' _ => simp [Node.isOpen] at hclosed
  | assignment name expr l' _ => simp [Node.isOpen] at hclosed
  | _ => exact ⟨_, .refl _, (Node.regular_binary_of_not_precedence hg).2 ⟨rfl, hleft, hright⟩⟩

/-- Every tree that a grammar reads regroups to one that is read without precedence. -/
lemma exists_regroups {n : Node} (h : n.Regular g) :
    ∃ m, Regroups n m ∧ m.Regular ⟨false, g.assignments⟩ := by
  induction n with
  | literal v l => exact ⟨_, .refl _, Node.regular_literal⟩
  | reference name l =>
    have hassign : g.assignments = true := Node.regular_reference.1 h
    exact ⟨_, .refl _, Node.regular_reference.2 hassign⟩
  | declaration name type expr l ih =>
    obtain ⟨m, hm, hregular⟩ := ih (Node.regular_declaration.1 h)
    exact ⟨_, .declaration name type l hm, Node.regular_declaration.2 hregular⟩
  | assignment name expr l ih =>
    obtain ⟨hassign, hexpr⟩ := Node.regular_assignment.1 h
    obtain ⟨m, hm, hregular⟩ := ih hexpr
    exact ⟨_, .assignment name l hm, Node.regular_assignment.2 ⟨hassign, hregular⟩⟩
  | binary left op right l ihl ihr =>
    obtain ⟨hclosed, hleft, hright⟩ := h.operands
    obtain ⟨left', hl, hregularl⟩ := ihl hleft
    obtain ⟨right', hr, hregularr⟩ := ihr hright
    have hclosed' : left'.isOpen = false := hl.isOpen_eq.symm.trans hclosed
    obtain ⟨m, hm, hregular⟩ :=
      exists_regroups_binary rfl hclosed' hregularl hregularr op l
    exact ⟨m, (Regroups.binary op l hl hr).trans hm, hregular⟩

lemma exists_regroups_all {nodes : List Node} (h : ∀ n ∈ nodes, n.Regular g) :
    ∃ nodes', List.Forall₂ Regroups nodes nodes' ∧
      ∀ m ∈ nodes', m.Regular ⟨false, g.assignments⟩ := by
  induction nodes with
  | nil => exact ⟨[], .nil, by simp⟩
  | cons n nodes ih =>
    obtain ⟨hn, hnodes⟩ := List.forall_mem_cons.1 h
    obtain ⟨m, hm, hregular⟩ := exists_regroups hn
    obtain ⟨ms, hms, hregulars⟩ := ih hnodes
    exact ⟨m :: ms, .cons hm hms, List.forall_mem_cons.2 ⟨hregular, hregulars⟩⟩

end Rightward

/-! ### The two ways of reading -/

lemma flatMap_marks_eq {nodes nodes' : List Node} (h : List.Forall₂ Regroups nodes nodes') :
    nodes.flatMap Node.marks = nodes'.flatMap Node.marks := by
  induction h with
  | nil => rfl
  | cons hn _ ih => rw [List.flatMap_cons, List.flatMap_cons, hn.marks_eq, ih]

/-- Tokens that are read with one grouping are read with every other. -/
lemma exists_parse_eq_ok {precedence assignments : Bool} {tokens : List Token} {nodes : List Node}
    (h : parse ⟨precedence, assignments⟩ tokens = .ok nodes) (precedence' : Bool) :
    ∃ nodes', parse ⟨precedence', assignments⟩ tokens = .ok nodes' := by
  have hassign : (Grammar.mk precedence assignments).assignments
      = (Grammar.mk precedence' assignments).assignments := rfl
  obtain ⟨rest, hrest⟩ := parse_eq_ok_iff.1 h
  have hsame := expressions_congr hassign (Parser.lastLocation tokens) tokens
  rw [hrest] at hsame
  rcases hread : expressions ⟨precedence', assignments⟩ (Parser.lastLocation tokens) tokens with
    e | ⟨nodes', rest'⟩
  · simp [hread, Except.map] at hsame
  · exact ⟨nodes', parse_eq_ok_iff.2 ⟨rest', hread⟩⟩

/-- **The trees read with precedence regroup to those read without it.**  Tokens that are read in
one of the two ways are read in both. -/
theorem exists_parse_regroups {precedence assignments : Bool} {tokens : List Token}
    {nodes : List Node} (h : parse ⟨precedence, assignments⟩ tokens = .ok nodes) :
    ∃ ns ms, parse ⟨false, assignments⟩ tokens = .ok ns ∧
      parse ⟨true, assignments⟩ tokens = .ok ms ∧ List.Forall₂ Regroups ms ns := by
  obtain ⟨ms, hms⟩ := exists_parse_eq_ok h true
  obtain ⟨hwritten, hregular⟩ := parse_eq_ok_iff_written.1 hms
  obtain ⟨ns, hns, hrightward⟩ := exists_regroups_all hregular
  -- the regrouped trees are written by the same tokens, so they are what is read without precedence
  rw [flatMap_marks_eq hns] at hwritten
  exact ⟨ns, ms, parse_eq_ok_iff_written.2 ⟨hwritten, hrightward⟩, hms, hns⟩

end LetScript
