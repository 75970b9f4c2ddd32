import LetScript.Proofs.Node.Chain
import Mathlib.Tactic.Common

/-!
# Trees, their tokens and their chains

A tree is written by tokens, in order from left to right.  What it tells about each of them is a
*mark*: a number, a text, a name, the keyword or a sign, with the place where the token stands if
the tree keeps it.  Two trees with the same marks differ at most in how their operators group.

Here trees are compared with the chains of operands that are read.  Grouping a chain keeps its
marks, gives a *regular* tree, that is one whose operators group as the grammar says, and is undone
by listing the operands of the tree from left to right.
-/

namespace LetScript

/-! ### Marks -/

/-- What a tree tells about one of the tokens that write it. -/
inductive Mark where
  /-- A number. -/
  | number (n : UInt32) (location : Location)
  /-- A string. -/
  | text (s : Text) (location : Location)
  /-- A name, of a variable or of a type.  The place of a declared name is not kept. -/
  | name (s : Text) (location : Option Location)
  /-- The keyword of a declaration. -/
  | keyword (location : Location)
  /-- The colon before a type. -/
  | colon
  /-- The sign before the expression of a declaration or an assignment. -/
  | equals
  /-- A binary operator. -/
  | operator (op : Operator) (location : Location)
deriving DecidableEq

/-- The colon and the name of a type, where a declaration has one. -/
def typeMarks : Option TypeName → List Mark
  | none => []
  | some type => [.colon, .name type.name (some type.location)]

/-- The marks of a tree, in order. -/
def Node.marks : Node → List Mark
  | literal (.integer n) l => [.number n l]
  | literal (.string s) l => [.text s l]
  | binary left op right l => left.marks ++ .operator op l :: right.marks
  | declaration name type expr l =>
    .keyword l :: .name name none :: (typeMarks type ++ .equals :: expr.marks)
  | assignment name expr l => .name name (some l) :: .equals :: expr.marks
  | reference name l => [.name name (some l)]

/-- The marks of a link: its operator and its operand. -/
def Link.marks (link : Link) : List Mark := .operator link.op link.location :: link.operand.marks

/-- The marks of a chain. -/
def Chain.marks (c : Chain) : List Mark := c.first.marks ++ c.links.flatMap Link.marks

lemma Chain.marks_operand (n : Node) : (Chain.mk n []).marks = n.marks := by
  simp [marks]

lemma Chain.marks_link (n : Node) (op : Operator) (l : Location) (c : Chain) :
    (Chain.mk n (⟨op, l, c.first⟩ :: c.links)).marks
      = n.marks ++ .operator op l :: c.marks := by
  simp [marks, Link.marks]

/-! ### Shapes -/

namespace Node

/-- The expressions in an expression, at any depth and itself included. -/
def parts : Node → List Node
  | literal v l => [literal v l]
  | binary left op right l => binary left op right l :: (left.parts ++ right.parts)
  | declaration name type expr l => declaration name type expr l :: expr.parts
  | assignment name expr l => assignment name expr l :: expr.parts
  | reference name l => [reference name l]

/-- Whether an expression is a literal or a reference. -/
def isAtom : Node → Bool
  | literal _ _ | reference _ _ => true
  | _ => false

/-- Whether an expression is a binary operation. -/
def isBinary : Node → Bool
  | binary _ _ _ _ => true
  | _ => false

/-- Whether an expression ends in a declaration or an assignment, which would take in whatever
operator comes next. -/
def isOpen : Node → Bool
  | declaration _ _ _ _ | assignment _ _ _ => true
  | binary _ _ right _ => right.isOpen
  | _ => false

/-- Whether an expression is no binary operation with a loose operator. -/
def isProduct : Node → Bool
  | binary _ op _ _ => Chain.bindsTight op
  | _ => true

/-- Whether an expression is an assignment or a reference. -/
def usesName : Node → Bool
  | assignment _ _ _ | reference _ _ => true
  | _ => false

end Node

/-- How tightly an operator binds. -/
def Operator.tightness : Operator → Nat
  | times | divide => 2
  | _ => 1

namespace Node

/-- Whether an expression can be the left operand of an operator, where operators group by
precedence and from the left. -/
def standsLeftOf (op : Operator) : Node → Bool
  | literal _ _ | reference _ _ => true
  | binary _ op' right _ => op.tightness ≤ op'.tightness && !right.isOpen
  | declaration _ _ _ _ | assignment _ _ _ => false

/-- Whether an expression can be the right operand of an operator, where operators group by
precedence and from the left. -/
def standsRightOf (op : Operator) : Node → Bool
  | binary _ op' _ _ => op.tightness < op'.tightness
  | _ => true

/-- Whether the operands of a binary operation are grouped by precedence and from the left. -/
def tiered : Node → Bool
  | binary left op right _ => left.standsLeftOf op && right.standsRightOf op
  | _ => true

/-- Whether the operands of a binary operation are grouped to the right. -/
def rightward : Node → Bool
  | binary left _ _ _ => left.isAtom
  | _ => true

end Node

/-- The shape that a grammar gives to binary operations. -/
def Grammar.shape (g : Grammar) (n : Node) : Bool :=
  if g.precedence then n.tiered else n.rightward

namespace Node

/-- Whether an expression, its parts apart, is one that a grammar allows. -/
def regular (g : Grammar) (n : Node) : Bool := g.shape n && (!n.usesName || g.assignments)

/-- All parts of an expression are such as a grammar allows. -/
def Regular (g : Grammar) (n : Node) : Prop := ∀ m ∈ n.parts, m.regular g = true

variable {g : Grammar} {n left right expr : Node} {op : Operator} {l : Location} {name : Text}

@[simp] lemma regular_literal {v : Literal} : (literal v l).Regular g := by
  simp [Regular, parts, regular, Grammar.shape, tiered, rightward, usesName]

@[simp] lemma regular_reference : (reference name l).Regular g ↔ g.assignments = true := by
  simp [Regular, parts, regular, Grammar.shape, tiered, rightward, usesName]

@[simp] lemma regular_declaration {type : Option TypeName} :
    (declaration name type expr l).Regular g ↔ expr.Regular g := by
  simp [Regular, parts, regular, Grammar.shape, tiered, rightward, usesName]

@[simp] lemma regular_assignment :
    (assignment name expr l).Regular g ↔ g.assignments = true ∧ expr.Regular g := by
  simp [Regular, parts, regular, Grammar.shape, tiered, rightward, usesName]

lemma regular_binary : (binary left op right l).Regular g ↔
    (binary left op right l).regular g = true ∧ left.Regular g ∧ right.Regular g := by
  simp [Regular, parts, or_imp, forall_and]

lemma isOpen_of_isAtom (h : n.isAtom = true) : n.isOpen = false := by
  cases n <;> simp_all [isAtom, isOpen]

lemma isBinary_of_isAtom (h : n.isAtom = true) : n.isBinary = false := by
  cases n <;> simp_all [isAtom, isBinary]

lemma isProduct_of_isBinary (h : n.isBinary = false) : n.isProduct = true := by
  cases n <;> simp_all [isBinary, isProduct]

/-! #### The two tiers -/

lemma tightness_eq : op.tightness = if Chain.bindsTight op then 2 else 1 := by
  cases op <;> rfl

lemma standsLeftOf_eq : n.standsLeftOf op =
    ((n.isProduct || !Chain.bindsTight op) && !n.isOpen) := by
  cases n with
  | binary left op' right l =>
    simp only [standsLeftOf, isProduct, isOpen, tightness_eq]
    cases Chain.bindsTight op <;> cases Chain.bindsTight op' <;> simp
  | _ => simp [standsLeftOf, isProduct, isOpen]

lemma standsRightOf_eq : n.standsRightOf op =
    if Chain.bindsTight op then !n.isBinary else n.isProduct := by
  cases n with
  | binary left op' right l =>
    simp only [standsRightOf, isProduct, isBinary, tightness_eq]
    cases Chain.bindsTight op <;> cases Chain.bindsTight op' <;> simp
  | _ => simp [standsRightOf, isProduct, isBinary]

lemma regular_binary_of_tight (hg : g.precedence = true) (hop : Chain.bindsTight op = true) :
    (binary left op right l).Regular g ↔ left.isProduct = true ∧ left.isOpen = false ∧
      right.isBinary = false ∧ left.Regular g ∧ right.Regular g := by
  rw [regular_binary]
  simp [regular, Grammar.shape, tiered, usesName, hg, standsLeftOf_eq, standsRightOf_eq, hop,
    and_assoc]

lemma regular_binary_of_loose (hg : g.precedence = true) (hop : Chain.bindsTight op = false) :
    (binary left op right l).Regular g ↔ left.isOpen = false ∧ right.isProduct = true ∧
      left.Regular g ∧ right.Regular g := by
  rw [regular_binary]
  simp [regular, Grammar.shape, tiered, usesName, hg, standsLeftOf_eq, standsRightOf_eq, hop,
    and_assoc]

lemma regular_binary_of_not_precedence (hg : g.precedence = false) :
    (binary left op right l).Regular g ↔ left.isAtom = true ∧ left.Regular g ∧ right.Regular g := by
  rw [regular_binary]
  simp [regular, Grammar.shape, rightward, usesName, hg]

/-- Whichever way operators group, no left operand takes in the operator behind it. -/
lemma Regular.operands (h : (binary left op right l).Regular g) :
    left.isOpen = false ∧ left.Regular g ∧ right.Regular g := by
  cases hg : g.precedence with
  | true =>
    cases hop : Chain.bindsTight op with
    | true =>
      obtain ⟨-, hleft, -, hparts⟩ := (regular_binary_of_tight hg hop).1 h
      exact ⟨hleft, hparts⟩
    | false =>
      obtain ⟨hleft, -, hparts⟩ := (regular_binary_of_loose hg hop).1 h
      exact ⟨hleft, hparts⟩
  | false =>
    obtain ⟨hleft, hparts⟩ := (regular_binary_of_not_precedence hg).1 h
    exact ⟨isOpen_of_isAtom hleft, hparts⟩

end Node

/-! ### Grouping keeps the marks -/

namespace Chain

lemma marks_groupRight (first : Node) (links : List Link) :
    (groupRight first links).marks = first.marks ++ links.flatMap Link.marks := by
  induction links generalizing first with
  | nil => simp [groupRight]
  | cons link links ih => simp [groupRight, Node.marks, Link.marks, ih]

lemma marks_close (p : Pending) (right : Node) :
    (Pending.close (some p) right).marks
      = p.left.marks ++ .operator p.op p.location :: right.marks := rfl

lemma marks_groupTiers (waiting : Option Pending) (product : Node) (links : List Link) :
    (groupTiers waiting product links).marks
      = (Pending.close waiting product).marks ++ links.flatMap Link.marks := by
  induction links generalizing waiting product with
  | nil => simp [groupTiers]
  | cons link links ih =>
    rw [groupTiers]
    split
    · rw [ih]
      cases waiting <;> simp [Pending.close, Node.marks, Link.marks]
    · rw [ih, marks_close]
      simp [Link.marks]

/-- **Grouping keeps the operands and operators of a chain, in order.** -/
theorem marks_group (precedence : Bool) (c : Chain) : (c.group precedence).marks = c.marks := by
  cases precedence with
  | false => exact marks_groupRight c.first c.links
  | true => exact marks_groupTiers none c.first c.links

/-! ### Grouping gives regular trees -/

/-- The operands of a chain that a grammar allows.  None of them is a binary operation, and only
the last one may be a declaration or an assignment. -/
inductive Allowed (g : Grammar) : Node → List Link → Prop
  | last {n : Node} (hoperand : n.isBinary = false) (hregular : n.Regular g) : Allowed g n []
  | link {n operand : Node} {op : Operator} {l : Location} {links : List Link}
      (hatom : n.isAtom = true) (hregular : n.Regular g) (hlinks : Allowed g operand links) :
      Allowed g n (⟨op, l, operand⟩ :: links)

variable {g : Grammar}

lemma Allowed.isBinary {n : Node} {links : List Link} (h : Allowed g n links) :
    n.isBinary = false := by
  cases h with
  | last hoperand _ => exact hoperand
  | link hatom _ _ => exact Node.isBinary_of_isAtom hatom

lemma Allowed.regular {n : Node} {links : List Link} (h : Allowed g n links) : n.Regular g := by
  cases h with
  | last _ hregular => exact hregular
  | link _ hregular _ => exact hregular

lemma Allowed.regular_groupRight (hg : g.precedence = false) {first : Node} {links : List Link}
    (h : Allowed g first links) : (groupRight first links).Regular g := by
  induction h with
  | last _ hregular => exact hregular
  | link hatom hregular _ ih =>
    exact (Node.regular_binary_of_not_precedence hg).2 ⟨hatom, hregular, ih⟩

/-- What a waiting operator needs: a left operand that is complete, and no tight operator, since a
tight one joins the product at once. -/
def Pending.Ready (g : Grammar) (p : Pending) : Prop :=
  bindsTight p.op = false ∧ p.left.isOpen = false ∧ p.left.Regular g

lemma Pending.regular_close (hg : g.precedence = true) {waiting : Option Pending}
    (hwaiting : ∀ p ∈ waiting, p.Ready g) {product : Node} (hproduct : product.isProduct = true)
    (hregular : product.Regular g) : (Pending.close waiting product).Regular g := by
  cases waiting with
  | none => exact hregular
  | some p =>
    obtain ⟨hloose, hopen, hleft⟩ := hwaiting p rfl
    exact (Node.regular_binary_of_loose hg hloose).2 ⟨hopen, hproduct, hleft, hregular⟩

lemma Pending.isOpen_close (waiting : Option Pending) (product : Node) :
    (Pending.close waiting product).isOpen = product.isOpen := by
  cases waiting <;> rfl

/-- The product that is being built may have taken in operands before `operand`, but it ends as
`operand` does. -/
lemma Allowed.regular_groupTiers (hg : g.precedence = true) {operand : Node} {links : List Link}
    (h : Allowed g operand links) {waiting : Option Pending} (hwaiting : ∀ p ∈ waiting, p.Ready g)
    {product : Node} (hproduct : product.isProduct = true) (hregular : product.Regular g)
    (hopen : product.isOpen = operand.isOpen) : (groupTiers waiting product links).Regular g := by
  induction h generalizing waiting product with
  | last _ _ => exact Pending.regular_close hg hwaiting hproduct hregular
  | @link n operand op l links hatom _ hlinks ih =>
    have hclosed : product.isOpen = false := hopen.trans (Node.isOpen_of_isAtom hatom)
    rw [groupTiers]
    split
    · next htight =>
      -- the operator joins the product, which then ends as the operand behind it
      refine ih hwaiting htight ?_ rfl
      exact (Node.regular_binary_of_tight hg htight).2
        ⟨hproduct, hclosed, hlinks.isBinary, hregular, hlinks.regular⟩
    · next hloose =>
      -- the operator closes what stands before it, and a new product begins
      have hready : Pending.Ready g ⟨Pending.close waiting product, op, l⟩ := by
        refine ⟨by simpa using hloose, ?_, Pending.regular_close hg hwaiting hproduct hregular⟩
        rw [Pending.isOpen_close, hclosed]
      exact ih (by simpa using hready) (Node.isProduct_of_isBinary hlinks.isBinary) hlinks.regular
        rfl

/-- **Grouping gives a regular tree.** -/
theorem Allowed.regular_group {c : Chain} (h : Allowed g c.first c.links) :
    (c.group g.precedence).Regular g := by
  cases hg : g.precedence with
  | false => exact h.regular_groupRight hg
  | true =>
    exact h.regular_groupTiers hg (by simp) (Node.isProduct_of_isBinary h.isBinary) h.regular rfl

end Chain

/-! ### The chain of a tree -/

/-- The operands of a tree and the operators between them, from left to right. -/
def Node.toChain : Node → Chain
  | binary left op right l =>
    ⟨left.toChain.first, left.toChain.links ++ ⟨op, l, right.toChain.first⟩ :: right.toChain.links⟩
  | n => ⟨n, []⟩

lemma Node.toChain_of_isBinary {n : Node} (h : n.isBinary = false) : n.toChain = ⟨n, []⟩ := by
  cases n <;> simp_all [isBinary, toChain]

namespace Chain

variable {g : Grammar}

lemma groupRight_toChain (hg : g.precedence = false) {n : Node} (h : n.Regular g) :
    groupRight n.toChain.first n.toChain.links = n := by
  induction n with
  | binary left op right l _ ihr =>
    obtain ⟨hatom, -, hright⟩ := (Node.regular_binary_of_not_precedence hg).1 h
    rw [Node.toChain, Node.toChain_of_isBinary (Node.isBinary_of_isAtom hatom), List.nil_append,
      groupRight, ihr hright]
  | _ => rfl

/-- The links of a product build it, whatever waits before it. -/
lemma groupTiers_of_isProduct (hg : g.precedence = true) {n : Node} (h : n.Regular g)
    (hproduct : n.isProduct = true) (waiting : Option Pending) (links : List Link) :
    groupTiers waiting n.toChain.first (n.toChain.links ++ links) = groupTiers waiting n links := by
  induction n generalizing links with
  | binary left op right l ihl _ =>
    obtain ⟨hleft, -, hright, hregular, -⟩ := (Node.regular_binary_of_tight hg hproduct).1 h
    rw [Node.toChain, Node.toChain_of_isBinary hright, List.append_assoc, ihl hregular hleft]
    exact if_pos hproduct
  | _ => rfl

/-- The links of a tree build it up to its last product, which may still grow. -/
lemma groupTiers_toChain_append (hg : g.precedence = true) {n : Node} (h : n.Regular g)
    (links : List Link) :
    ∃ waiting product, groupTiers none n.toChain.first (n.toChain.links ++ links)
      = groupTiers waiting product links ∧ Pending.close waiting product = n := by
  induction n generalizing links with
  | binary left op right l ihl _ =>
    cases hop : bindsTight op with
    | true => exact ⟨none, _, groupTiers_of_isProduct hg h hop none links, rfl⟩
    | false =>
      obtain ⟨-, hproduct, hleft, hright⟩ := (Node.regular_binary_of_loose hg hop).1 h
      obtain ⟨waiting, product, heq, hclose⟩ :=
        ihl hleft (⟨op, l, right.toChain.first⟩ :: right.toChain.links ++ links)
      refine ⟨some ⟨left, op, l⟩, right, ?_, rfl⟩
      calc groupTiers none left.toChain.first
            (left.toChain.links ++ ⟨op, l, right.toChain.first⟩ :: right.toChain.links ++ links)
          = groupTiers waiting product
              (⟨op, l, right.toChain.first⟩ :: right.toChain.links ++ links) := by
            rw [List.append_assoc, heq]
        _ = groupTiers (some ⟨left, op, l⟩) right.toChain.first
              (right.toChain.links ++ links) := by
            rw [List.cons_append, groupTiers, hop, hclose]
            rfl
        _ = groupTiers (some ⟨left, op, l⟩) right links :=
            groupTiers_of_isProduct hg hright hproduct _ links
  | _ => exact ⟨none, _, rfl, rfl⟩

/-- **Grouping the operands of a regular tree gives the tree back.** -/
theorem group_toChain {n : Node} (h : n.Regular g) : n.toChain.group g.precedence = n := by
  cases hg : g.precedence with
  | false => exact groupRight_toChain hg h
  | true =>
    obtain ⟨waiting, product, heq, hclose⟩ := groupTiers_toChain_append hg h []
    rw [List.append_nil] at heq
    exact heq.trans hclose

end Chain

end LetScript
