import LetScript.Node.Parser
import Mathlib.Tactic.Common

/-!
# Expressions as chains

The parser reads an expression in one of two ways, by right recursion or by climbing.  Both read a
chain of operands with operators between them, and differ only in the tree that they make of it.
Here this is said as an equation: `chain` reads the operands and operators of an expression and does
not ask how they group, `Chain.group` makes a tree of what has been read, and the main result,
`expr_eq_chain`, says that the two steps together are what the parser does.

Right recursion follows the chain link by link.  A climb does not: what it reads depends on the least
precedence that it was given, and it leaves the rest of the chain to the climb that called it.  What
carries the proof is that nothing is lost on the way, at any two levels: `climbFrom_bind` says that a
loop which goes on where a loop for tighter operators has stopped reads what it would have read from
the beginning.
-/

namespace LetScript

/-! ### Chains and their trees -/

/-- An operator in a chain and the operand behind it. -/
structure Link where
  /-- The operator. -/
  op : Operator
  /-- Where it stands. -/
  location : Location
  /-- The operand behind it. -/
  operand : Node
deriving DecidableEq

/-- Operands with operators between them. -/
structure Chain where
  /-- The first operand. -/
  first : Node
  /-- The operators and the other operands. -/
  links : List Link
deriving DecidableEq

namespace Chain

/-- Every operator takes everything to its right as its right operand. -/
def groupRight (first : Node) : List Link → Node
  | [] => first
  | ⟨op, l, operand⟩ :: links => .binary first op (groupRight operand links) l

/-- Whether an operator binds tighter than `+` and `-`. -/
def bindsTight : Operator → Bool
  | .times | .divide => true
  | _ => false

/-- An operator that waits for its right operand, together with its left one. -/
structure Pending where
  /-- The left operand. -/
  left : Node
  /-- The operator. -/
  op : Operator
  /-- Where it stands. -/
  location : Location

/-- The operation of a waiting operator, once its right operand is complete. -/
def Pending.close : Option Pending → Node → Node
  | none, right => right
  | some p, right => .binary p.left p.op right p.location

/-- Tight operators join the product that is being built; a loose one closes that product and
what waits before it, and waits itself for the next product. -/
def groupTiers (waiting : Option Pending) (product : Node) : List Link → Node
  | [] => Pending.close waiting product
  | ⟨op, l, operand⟩ :: links =>
    if bindsTight op then groupTiers waiting (.binary product op operand l) links
    else groupTiers (some ⟨Pending.close waiting product, op, l⟩) operand links

/-- The tree of a chain. -/
def group (precedence : Bool) (c : Chain) : Node :=
  if precedence then groupTiers none c.first c.links else groupRight c.first c.links

end Chain

/-! ### Reading a chain -/

/-- The chain at the beginning of the tokens, and the tokens behind it. -/
def chain (g : Grammar) (stop : Location) (tokens : List Token) :
    Except ParseFailure (Chain × List Token) :=
  match _h : opening g stop tokens with
  | .error e => .error e
  | .ok (.header hd, body) =>
    match chain g stop body with
    | .error e => .error e
    | .ok (c, rest) => .ok (⟨hd.close (c.group g.precedence), []⟩, rest)
  | .ok (.operand n, []) => .ok (⟨n, []⟩, [])
  | .ok (.operand n, t :: rest) =>
    match t.operator? with
    | none => .ok (⟨n, []⟩, t :: rest)
    | some op =>
      match chain g stop rest with
      | .error e => .error e
      | .ok (c, rest') => .ok (⟨n, ⟨op, t.location, c.first⟩ :: c.links⟩, rest')
termination_by tokens.length
decreasing_by
  · exact opening_length _h
  · exact Nat.lt_of_succ_lt (opening_length _h)

theorem chain_length {g : Grammar} {stop : Location} {tokens rest : List Token} {c : Chain}
    (h : chain g stop tokens = .ok (c, rest)) : rest.length < tokens.length := by
  fun_induction chain g stop tokens generalizing c rest with
  | case1 => cases h
  | case2 => cases h
  | case3 tokens hd body ho c' rest' hc ih =>
    cases h
    exact Nat.lt_trans (ih hc) (opening_length ho)
  | case4 tokens n ho =>
    cases h
    exact opening_length ho
  | case5 tokens n t ts ho =>
    cases h
    exact opening_length ho
  | case6 => cases h
  | case7 tokens n t ts ho op hop c' rest' hc ih =>
    cases h
    exact Nat.lt_trans (ih hc) (Nat.lt_of_succ_lt (opening_length ho))

variable {g : Grammar} {stop : Location} {tokens rest : List Token}

/-! ### The steps of the reader -/

/-- How a chain goes on behind the beginning of its first operand. -/
def chainFrom (g : Grammar) (stop : Location) :
    Opening × List Token → Except ParseFailure (Chain × List Token)
  | (.header hd, body) =>
    (chain g stop body).map fun r => (⟨hd.close (r.1.group g.precedence), []⟩, r.2)
  | (.operand n, []) => .ok (⟨n, []⟩, [])
  | (.operand n, t :: body) =>
    match t.operator? with
    | none => .ok (⟨n, []⟩, t :: body)
    | some op =>
      (chain g stop body).map fun r => (⟨n, ⟨op, t.location, r.1.first⟩ :: r.1.links⟩, r.2)

lemma chain_eq_bind (g : Grammar) (stop : Location) (tokens : List Token) :
    chain g stop tokens = opening g stop tokens >>= chainFrom g stop := by
  rw [chain]
  split
  · next e h =>
    rw [h]
    rfl
  · next hd body h =>
    rw [h]
    show _ = Except.map _ (chain g stop body)
    cases chain g stop body <;> rfl
  · next n h =>
    rw [h]
    rfl
  · next n t body h =>
    rw [h]
    show _ = chainFrom g stop (.operand n, t :: body)
    rw [chainFrom]
    rcases t.operator? with _ | op
    · rfl
    · cases chain g stop body <;> rfl

lemma chain_of_header {hd : Header} {body : List Token}
    (h : opening g stop tokens = .ok (.header hd, body)) {c : Chain}
    (hc : chain g stop body = .ok (c, rest)) :
    chain g stop tokens = .ok (⟨hd.close (c.group g.precedence), []⟩, rest) := by
  rw [chain_eq_bind, h]
  show Except.map _ (chain g stop body) = _
  rw [hc]
  rfl

lemma chain_of_operand {n : Node} (h : opening g stop tokens = .ok (.operand n, rest))
    (hrest : ∀ t ∈ rest.head?, t.operator? = none) :
    chain g stop tokens = .ok (⟨n, []⟩, rest) := by
  rw [chain_eq_bind, h]
  show chainFrom g stop (.operand n, rest) = _
  cases rest with
  | nil => rfl
  | cons t ts => rw [chainFrom, hrest t rfl]

lemma chain_of_link {n : Node} {t : Token} {body : List Token}
    (h : opening g stop tokens = .ok (.operand n, t :: body)) {op : Operator}
    (hop : t.operator? = some op) {c : Chain} (hc : chain g stop body = .ok (c, rest)) :
    chain g stop tokens = .ok (⟨n, ⟨op, t.location, c.first⟩ :: c.links⟩, rest) := by
  rw [chain_eq_bind, h]
  show chainFrom g stop (.operand n, t :: body) = _
  rw [chainFrom, hop, hc]
  rfl

/-! ### The end of a chain -/

lemma chainFrom_of_stops (n : Node) (h : ∀ t ∈ rest.head?, t.operator? = none) :
    chainFrom g stop (.operand n, rest) = .ok (⟨n, []⟩, rest) := by
  cases rest with
  | nil => rfl
  | cons t ts => rw [chainFrom, h t rfl]

lemma first_chainFrom {n : Node} {c : Chain} {body : List Token}
    (h : chainFrom g stop (.operand n, body) = .ok (c, rest)) : c.first = n := by
  cases body with
  | nil =>
    cases h
    rfl
  | cons t ts =>
    rcases hop : t.operator? with _ | op
    · rw [chainFrom, hop] at h
      cases h
      rfl
    · rcases hc : chain g stop ts with e | r <;>
        rw [chainFrom, hop, hc] at h <;>
        cases h
      rfl

/-- A chain goes on as long as operators follow. -/
lemma chain_stops {c : Chain} (h : chain g stop tokens = .ok (c, rest)) :
    ∀ t ∈ rest.head?, t.operator? = none := by
  fun_induction chain g stop tokens generalizing c rest with
  | case1 => cases h
  | case2 => cases h
  | case3 tokens hd body ho c' rest' hc ih =>
    cases h
    exact ih hc
  | case4 tokens n ho =>
    cases h
    simp
  | case5 tokens n t ts ho hop =>
    cases h
    simpa using hop
  | case6 => cases h
  | case7 tokens n t ts ho op hop c' rest' hc ih =>
    cases h
    exact ih hc

/-! ### Climbing -/

section Climbing

variable {least : Nat} {lhs : Node} {t : Token} {op : Operator}

lemma climbFrom_of_stops (h : ∀ t ∈ tokens.head?, t.operator? = none) :
    climbFrom g stop least lhs tokens = .ok (lhs, tokens) := by
  cases tokens with
  | nil => exact climbFrom_nil least lhs
  | cons t ts => rw [climbFrom_cons, h t rfl]

lemma climbFrom_of_loose (hop : t.operator? = some op) (h : op.precedence < least) :
    climbFrom g stop least lhs (t :: rest) = .ok (lhs, t :: rest) := by
  rw [climbFrom_cons, hop]
  exact if_pos h

lemma climbFrom_of_tight (hop : t.operator? = some op) (h : least ≤ op.precedence) :
    climbFrom g stop least lhs (t :: rest) = climb g stop (op.precedence + 1) rest >>= fun r =>
      climbFrom g stop least (.binary lhs op r.1 t.location) r.2 := by
  rw [climbFrom_cons, hop]
  exact if_neg (Nat.not_lt.2 h)

/-- **Climbs at two levels.**  Where the loop for tighter operators has stopped, the loop for looser
ones goes on as if it had read everything itself. -/
lemma climbFrom_bind {tighter looser : Nat} (h : looser ≤ tighter) (lhs : Node)
    (tokens : List Token) :
    (climbFrom g stop tighter lhs tokens >>= fun r => climbFrom g stop looser r.1 r.2)
      = climbFrom g stop looser lhs tokens := by
  induction hlen : tokens.length using Nat.strongRecOn generalizing lhs tokens with
  | ind k ih =>
    cases tokens with
    | nil =>
      rw [climbFrom_nil]
      rfl
    | cons t ts =>
      rcases hop : t.operator? with _ | op
      · have hstops : ∀ u ∈ (t :: ts).head?, u.operator? = none := by simpa using hop
        rw [climbFrom_of_stops hstops]
        rfl
      · rcases Nat.lt_or_ge op.precedence tighter with hlt | hge
        · rw [climbFrom_of_loose hop hlt]
          rfl
        · -- both loops take the operator, and read what stands behind it by the same climb
          rw [climbFrom_of_tight hop hge, climbFrom_of_tight hop (Nat.le_trans h hge)]
          rcases hc : climb g stop (op.precedence + 1) ts with e | ⟨rhs, rest⟩
          · rfl
          · have hlt : rest.length < k := by
              rw [← hlen, List.length_cons]
              exact Nat.lt_succ_of_lt (climb_length hc)
            exact ih rest.length hlt _ rest rfl

/-- The same for whole climbs. -/
lemma climb_bind {tighter looser : Nat} (h : looser ≤ tighter) (tokens : List Token) :
    (climb g stop tighter tokens >>= fun r => climbFrom g stop looser r.1 r.2)
      = climb g stop looser tokens := by
  rw [climb_eq, climb_eq]
  rcases operand g stop tokens with e | ⟨lhs, rest⟩
  · rfl
  · exact climbFrom_bind h lhs rest

lemma Operator.precedence_le (op : Operator) : op.precedence ≤ 2 := by
  cases op <;> simp [precedence]

/-- No operator binds tighter than `*` and `/`, so what stands behind them is a single operand. -/
lemma climb_of_two_lt (h : 2 < least) (tokens : List Token) :
    climb g stop least tokens = operand g stop tokens := by
  rw [climb_eq]
  rcases operand g stop tokens with e | ⟨lhs, rest⟩
  · rfl
  · show climbFrom g stop least lhs rest = .ok (lhs, rest)
    cases rest with
    | nil => exact climbFrom_nil least lhs
    | cons t ts =>
      rcases hop : t.operator? with _ | op
      · exact climbFrom_of_stops (by simpa using hop)
      · exact climbFrom_of_loose hop (Nat.lt_of_le_of_lt op.precedence_le h)

lemma precedence_of_bindsTight (h : Chain.bindsTight op = true) : op.precedence = 2 := by
  cases op <;> simp_all [Chain.bindsTight, Operator.precedence]

lemma precedence_of_not_bindsTight (hop : t.operator? = some op) (h : Chain.bindsTight op = false) :
    op.precedence = 1 := by
  rw [Token.operator?] at hop
  split at hop
  · cases hop
    rfl
  · cases hop
    rfl
  · cases hop
    cases h
  · cases hop
    cases h
  · cases hop

end Climbing

/-! ### The two ways to read a chain -/

/-- A chain is an operand and what follows behind it, if the expressions inside the operand are read
as chains. -/
lemma chain_eq_operand (hexpr : ∀ body : List Token, body.length < tokens.length →
      expr g stop body = (chain g stop body).map fun r => (r.1.group g.precedence, r.2)) :
    chain g stop tokens = operand g stop tokens >>= fun r => chainFrom g stop (.operand r.1, r.2) := by
  rw [chain_eq_bind, operand_eq]
  rcases ho : opening g stop tokens with e | ⟨n | hd, body⟩
  · rfl
  · rfl
  · show chainFrom g stop (.header hd, body)
      = ((expr g stop body).map fun q => (hd.close q.1, q.2)) >>= _
    rw [hexpr body (opening_length ho), chainFrom]
    rcases hc : chain g stop body with e | ⟨c, rest⟩
    · rfl
    · exact (chainFrom_of_stops _ (chain_stops hc)).symm

/-- **A climb groups by tiers.**  The loop for the tight operators builds a product, and the loop for
the loose ones goes on with the product and what waits before it: together they group the links that
follow as `groupTiers` does. -/
lemma climbFrom_tiers (n : Node) (waiting : Option Chain.Pending) (product : Node)
    (hchain : ∀ body : List Token, body.length < tokens.length → chain g stop body
      = operand g stop body >>= fun r => chainFrom g stop (.operand r.1, r.2)) :
    (climbFrom g stop 2 product tokens >>= fun r =>
        climbFrom g stop 1 (Chain.Pending.close waiting r.1) r.2)
      = (chainFrom g stop (.operand n, tokens)).map fun r =>
        (Chain.groupTiers waiting product r.1.links, r.2) := by
  induction hlen : tokens.length using Nat.strongRecOn
    generalizing tokens n waiting product with
  | ind k ih =>
    by_cases hstops : ∀ t ∈ tokens.head?, t.operator? = none
    · rw [climbFrom_of_stops hstops, chainFrom_of_stops n hstops]
      exact climbFrom_of_stops hstops
    · obtain ⟨t, ts, rfl, op, hop⟩ :
          ∃ t ts, tokens = t :: ts ∧ ∃ op, t.operator? = some op := by
        cases tokens with
        | nil => simp at hstops
        | cons t ts => exact ⟨t, ts, rfl, Option.ne_none_iff_exists'.1 (by simpa using hstops)⟩
      have hrest : chainFrom g stop (.operand n, t :: ts) = (chain g stop ts).map fun r =>
          (⟨n, ⟨op, t.location, r.1.first⟩ :: r.1.links⟩, r.2) := by
        rw [chainFrom, hop]
      rw [hrest, hchain ts (Nat.lt_succ_self _)]
      -- the links behind the next operand, grouped by the induction hypothesis
      have hbehind : ∀ m rest, operand g stop ts = .ok (m, rest) → ∀ waiting' product',
          (climbFrom g stop 2 product' rest >>= fun r =>
              climbFrom g stop 1 (Chain.Pending.close waiting' r.1) r.2)
            = (chainFrom g stop (.operand m, rest)).map fun r =>
              (Chain.groupTiers waiting' product' r.1.links, r.2) := by
        intro m rest hm waiting' product'
        have hlt : rest.length < (t :: ts).length := Nat.lt_succ_of_lt (operand_length hm)
        exact ih rest.length (hlen ▸ hlt) m waiting' product'
          (fun body hbody => hchain body (Nat.lt_trans hbody hlt)) rfl
      cases htight : Chain.bindsTight op with
      | true =>
        have hprec := precedence_of_bindsTight htight
        rw [climbFrom_of_tight hop (Nat.le_of_eq hprec.symm), climb_of_two_lt (by omega)]
        rcases hm : operand g stop ts with e | ⟨m, rest⟩
        · rfl
        · refine (hbehind m rest hm waiting (.binary product op m t.location)).trans ?_
          show _ = ((chainFrom g stop (.operand m, rest)).map _).map _
          rcases hc : chainFrom g stop (.operand m, rest) with e | ⟨c, rest'⟩
          · rfl
          · simp [Except.map, Chain.groupTiers, htight, first_chainFrom hc]
      | false =>
        have hprec := precedence_of_not_bindsTight hop htight
        rw [climbFrom_of_loose hop (by omega)]
        show climbFrom g stop 1 (Chain.Pending.close waiting product) (t :: ts) = _
        rw [climbFrom_of_tight hop (Nat.le_of_eq hprec.symm), hprec, climb_eq]
        rcases hm : operand g stop ts with e | ⟨m, rest⟩
        · rfl
        · refine (hbehind m rest hm
            (some ⟨Chain.Pending.close waiting product, op, t.location⟩) m).trans ?_
          show _ = ((chainFrom g stop (.operand m, rest)).map _).map _
          rcases hc : chainFrom g stop (.operand m, rest) with e | ⟨c, rest'⟩
          · rfl
          · simp [Except.map, Chain.groupTiers, htight, first_chainFrom hc]

/-- **An expression is a chain, grouped.**  Whether by right recursion or by climbing, the parser
reads the chain at the beginning of the tokens, and makes of it the tree in which its operators are
grouped. -/
theorem expr_eq_chain (g : Grammar) (stop : Location) (tokens : List Token) :
    expr g stop tokens = (chain g stop tokens).map fun r => (r.1.group g.precedence, r.2) := by
  induction hlen : tokens.length using Nat.strongRecOn generalizing tokens with
  | ind k ih =>
    have hchain : ∀ ts : List Token, ts.length ≤ tokens.length → chain g stop ts
        = operand g stop ts >>= fun r => chainFrom g stop (.operand r.1, r.2) :=
      fun ts hts => chain_eq_operand fun body hbody =>
        ih body.length (hlen ▸ Nat.lt_of_lt_of_le hbody hts) body rfl
    cases hprec : g.precedence with
    | false =>
      rw [expr_of_not_precedence hprec, hchain tokens (Nat.le_refl _)]
      rcases hlhs : operand g stop tokens with e | ⟨lhs, _ | ⟨t, ts⟩⟩
      · rfl
      · rfl
      · show (match t.operator? with
          | none => Except.ok (lhs, t :: ts)
          | some op => (expr g stop ts).map fun q => (.binary lhs op q.1 t.location, q.2))
            = (chainFrom g stop (.operand lhs, t :: ts)).map _
        rw [chainFrom]
        rcases t.operator? with _ | op
        · rfl
        · have hlt : ts.length < k := hlen ▸ Nat.lt_of_succ_lt (operand_length hlhs)
          simp only [ih ts.length hlt ts rfl, hprec]
          rcases chain g stop ts with e | r <;> rfl
    | true =>
      rw [expr_of_precedence hprec, ← climb_bind (Nat.le_succ 1), climb_eq,
        hchain tokens (Nat.le_refl _)]
      rcases hlhs : operand g stop tokens with e | ⟨lhs, rest⟩
      · rfl
      · show _ = (chainFrom g stop (.operand lhs, rest)).map _
        have htiers := climbFrom_tiers lhs none lhs fun body hbody =>
          hchain body (Nat.le_of_lt (Nat.lt_trans hbody (operand_length hlhs)))
        refine htiers.trans ?_
        rcases hc : chainFrom g stop (.operand lhs, rest) with e | ⟨c, rest'⟩
        · rfl
        · simp [Except.map, Chain.group, first_chainFrom hc]

lemma expr_eq_ok_iff {n : Node} : expr g stop tokens = .ok (n, rest) ↔
    ∃ c, chain g stop tokens = .ok (c, rest) ∧ c.group g.precedence = n := by
  rw [expr_eq_chain]
  rcases chain g stop tokens with e | ⟨c, rest'⟩
  · simp [Except.map]
  · simp only [Except.map, Except.ok.injEq, Prod.mk.injEq]
    constructor
    · rintro ⟨rfl, rfl⟩
      exact ⟨c, ⟨rfl, rfl⟩, rfl⟩
    · rintro ⟨c', ⟨rfl, rfl⟩, rfl⟩
      exact ⟨rfl, rfl⟩

end LetScript
