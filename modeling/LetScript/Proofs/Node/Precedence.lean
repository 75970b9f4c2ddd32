import LetScript.Proofs.Cursor
import LetScript.Proofs.Node.Derivation

/-!
# The switch for precedence

Right recursion and climbing are two algorithms, but they read the same tokens in the same order: the
parser accepts the same lists, fails on the others with the same errors, and stops at the same tokens.
Only the trees differ, and only in how their operators group.  Both algorithms read the chain of an
expression and group it (`expr_eq_chain`), so it is enough to compare chains whose operands, at any
depth, have been grouped in the one way or the other.
-/

namespace LetScript

/-! ### The tokens that are left -/

/-- The tokens that a reader has not consumed, whether it failed or not. -/
def leftover {α : Type} : Except ParseFailure (α × List Token) → List Token
  | .ok r => r.2
  | .error e => e.rest

variable {g g' : Grammar} {stop : Location} {tokens : List Token} {α β : Type}

lemma leftover_map {x : Except ParseFailure (α × List Token)} {f : α × List Token → β × List Token}
    (hx : leftover x <:+ tokens) (hf : ∀ r, (f r).2 = r.2) : leftover (x.map f) <:+ tokens := by
  cases x with
  | error e => exact hx
  | ok r =>
    show (f r).2 <:+ tokens
    rw [hf]
    exact hx

/-- A reader that goes on where another one stopped leaves an end of the tokens. -/
lemma leftover_bind {x : Except ParseFailure (α × List Token)}
    {f : α × List Token → Except ParseFailure (β × List Token)} (hx : leftover x <:+ tokens)
    (hf : ∀ r, x = .ok r → leftover (f r) <:+ r.2) : leftover (x >>= f) <:+ tokens := by
  cases x with
  | error e => exact hx
  | ok r => exact (hf r rfl).trans hx

lemma leftover_expect (kind : TokenKind) (expected : Text) :
    leftover (expect stop kind expected tokens) <:+ tokens := by
  cases tokens with
  | nil => exact List.suffix_rfl
  | cons t ts =>
    rw [expect]
    split
    · exact List.suffix_rfl
    · split
      · exact List.suffix_cons t ts
      · exact List.suffix_rfl

lemma leftover_annotatedType : leftover (annotatedType stop tokens) <:+ tokens := by
  cases tokens with
  | nil => exact List.suffix_rfl
  | cons t ts =>
    rw [annotatedType]
    split
    · refine List.IsSuffix.trans ?_ (List.suffix_cons t ts)
      exact leftover_bind (leftover_expect _ _) fun _ _ => List.suffix_rfl
    · exact List.suffix_rfl

lemma leftover_declarationHeader (l : Location) :
    leftover (declarationHeader stop l tokens) <:+ tokens := by
  refine leftover_bind (leftover_expect _ _) fun _ _ => ?_
  refine leftover_bind leftover_annotatedType fun _ _ => ?_
  exact leftover_bind (leftover_expect _ _) fun _ _ => List.suffix_rfl

lemma leftover_opening : leftover (opening g stop tokens) <:+ tokens := by
  cases tokens with
  | nil => exact List.suffix_rfl
  | cons t ts =>
    rw [opening]
    split
    · exact List.suffix_rfl
    · split <;> exact List.suffix_cons t ts
    · exact List.suffix_cons t ts
    · refine List.IsSuffix.trans ?_ (List.suffix_cons t ts)
      exact leftover_bind (leftover_declarationHeader _) fun _ _ => List.suffix_rfl
    · split
      · rcases nameOpening_cases t ts with ⟨e, rest, rfl, -, heq⟩ | ⟨-, heq⟩
        · rw [heq]
          exact ⟨[t, e], rfl⟩
        · rw [heq]
          exact List.suffix_cons t ts
      · exact List.suffix_rfl
    · exact List.suffix_rfl

lemma leftover_chainFrom {body : List Token} (o : Opening)
    (h : ∀ rest, rest <:+ body → leftover (chain g stop rest) <:+ rest) :
    leftover (chainFrom g stop (o, body)) <:+ body := by
  cases o with
  | header hd =>
    exact leftover_map (h body List.suffix_rfl) fun _ => rfl
  | operand n =>
    cases body with
    | nil => exact List.suffix_rfl
    | cons t ts =>
      rw [chainFrom]
      rcases t.operator? with _ | op
      · exact List.suffix_rfl
      · refine List.IsSuffix.trans ?_ (List.suffix_cons t ts)
        exact leftover_map (h ts (List.suffix_cons t ts)) fun _ => rfl

lemma leftover_chain : leftover (chain g stop tokens) <:+ tokens := by
  induction hlen : tokens.length using Nat.strongRecOn generalizing tokens with
  | ind k ih =>
    rw [chain_eq_bind]
    refine leftover_bind leftover_opening ?_
    rintro ⟨o, body⟩ ho
    refine leftover_chainFrom o fun rest hrest => ih rest.length ?_ rfl
    rw [← hlen]
    exact Nat.lt_of_le_of_lt hrest.length_le (opening_length ho)

lemma leftover_expressions : leftover (expressions g stop tokens) <:+ tokens := by
  induction hlen : tokens.length using Nat.strongRecOn generalizing tokens with
  | ind k ih =>
    by_cases hend : ∀ t ∈ tokens.head?, t.kind = .endOfFile
    · rw [expressions_of_end hend]
      exact List.suffix_rfl
    · cases tokens with
      | nil => simp at hend
      | cons t ts =>
        rw [expressions_eq_bind (by simpa using hend)]
        refine leftover_bind leftover_chain fun r hr => ?_
        refine leftover_map (ih r.2.length ?_ rfl) fun _ => rfl
        rw [← hlen]
        exact chain_length hr

/-! ### Readers that differ in grouping -/

/-- Two readers with the same view of what they read have the same view of what they make of it, if
that view can be told from the first one. -/
lemma map_map_congr {ε α' β' γ δ : Type} {x : Except ε α} {x' : Except ε α'} {v : α → γ}
    {v' : α' → γ} (h : x.map v = x'.map v') {f : α → β} {f' : α' → β'} {u : β → δ} {u' : β' → δ}
    (w : γ → δ) (hf : ∀ a, u (f a) = w (v a)) (hf' : ∀ a, u' (f' a) = w (v' a)) :
    (x.map f).map u = (x'.map f').map u' := by
  cases x with
  | error e =>
    cases x' with
    | error e' => simpa [Except.map] using h
    | ok a' => simp [Except.map] at h
  | ok a =>
    cases x' with
    | error e' => simp [Except.map] at h
    | ok a' =>
      have hview : v a = v' a' := by simpa [Except.map] using h
      simp [Except.map, hf, hf', hview]

lemma opening_congr (h : g.assignments = g'.assignments) (tokens : List Token) :
    opening g stop tokens = opening g' stop tokens := by
  cases tokens with
  | nil => rfl
  | cons t ts => simp only [opening, h]

/-- The marks of a chain do not depend on how operators group, nor do the tokens left behind it, nor
the error if there is one. -/
lemma chain_congr (h : g.assignments = g'.assignments) (stop : Location) (tokens : List Token) :
    (chain g stop tokens).map (fun r => (r.1.marks, r.2))
      = (chain g' stop tokens).map (fun r => (r.1.marks, r.2)) := by
  induction hlen : tokens.length using Nat.strongRecOn generalizing tokens with
  | ind k ih =>
    rw [chain_eq_bind g, chain_eq_bind g', opening_congr h]
    rcases ho : opening g' stop tokens with e | ⟨o, body⟩
    · rfl
    show (chainFrom g stop (o, body)).map _ = (chainFrom g' stop (o, body)).map _
    have hlt : body.length < k := by
      rw [← hlen]
      exact opening_length ho
    cases o with
    | header hd =>
      refine map_map_congr (ih body.length hlt body rfl) (fun r => (hd.marks ++ r.1, r.2)) ?_ ?_ <;>
        exact fun r => by rw [Chain.marks_operand, Header.marks_close, Chain.marks_group]
    | operand n =>
      cases body with
      | nil => rfl
      | cons t ts =>
        rw [chainFrom, chainFrom]
        rcases t.operator? with _ | op
        · rfl
        · refine map_map_congr (ih ts.length (Nat.lt_of_succ_lt hlt) ts rfl)
            (fun r => (n.marks ++ .operator op t.location :: r.1, r.2)) ?_ ?_ <;>
            exact fun r => by rw [Chain.marks_link]

/-- **Right recursion and climbing read the same expression**: the same operands and operators in the
same order, with the same tokens left behind them, or they fail with the same error. -/
lemma expr_congr (h : g.assignments = g'.assignments) (stop : Location) (tokens : List Token) :
    (expr g stop tokens).map (fun r => (r.1.marks, r.2))
      = (expr g' stop tokens).map (fun r => (r.1.marks, r.2)) := by
  rw [expr_eq_chain, expr_eq_chain]
  refine map_map_congr (chain_congr h stop tokens) (fun r => r) ?_ ?_ <;>
    exact fun r => by rw [Chain.marks_group]

/-- **Climbing at every level.**  A climb for any least precedence reads a beginning of what right
recursion reads.  The loop for the lowest precedence goes on from there, and comes to the same
operands and operators, leaves the same tokens, or fails with the same error. -/
lemma climb_congr (h : g.assignments = g'.assignments) (hprec : g.precedence = true)
    (stop : Location) (tokens : List Token) (least : Nat) :
    (climb g stop (least + 1) tokens >>= fun r => climbFrom g stop 1 r.1 r.2).map
        (fun r => (r.1.marks, r.2))
      = (expr g' stop tokens).map (fun r => (r.1.marks, r.2)) := by
  rw [climb_bind (Nat.le_add_left 1 least), ← expr_of_precedence hprec]
  exact expr_congr h stop tokens

/-- The same for the expressions of a script. -/
lemma expressions_congr (h : g.assignments = g'.assignments) (stop : Location)
    (tokens : List Token) :
    (expressions g stop tokens).map (fun r => (r.1.map Node.marks, r.2))
      = (expressions g' stop tokens).map (fun r => (r.1.map Node.marks, r.2)) := by
  induction hlen : tokens.length using Nat.strongRecOn generalizing tokens with
  | ind k ih =>
    by_cases hend : ∀ t ∈ tokens.head?, t.kind = .endOfFile
    · rw [expressions_of_end hend, expressions_of_end hend]
    · cases tokens with
      | nil => simp at hend
      | cons t ts =>
        have ht : t.kind ≠ .endOfFile := by simpa using hend
        rw [expressions_cons ht, expressions_cons ht]
        have hexpr := expr_congr h stop (t :: ts)
        rcases hn : expr g stop (t :: ts) with e | ⟨n, body⟩ <;>
          rcases hn' : expr g' stop (t :: ts) with e' | ⟨n', body'⟩ <;>
          simp only [hn, hn', Except.map, Except.error.injEq, Except.ok.injEq, Prod.mk.injEq,
            reduceCtorEq] at hexpr
        · rw [hexpr]
          rfl
        · obtain ⟨hmarks, rfl⟩ := hexpr
          have hlt : body.length < k := by
            rw [← hlen]
            exact expr_length hn
          refine map_map_congr (ih body.length hlt body rfl) (fun r => (n.marks :: r.1, r.2))
            (fun r => rfl) (fun r => ?_)
          rw [List.map_cons, hmarks]

/-! ### The parser -/

/-- **The switch for precedence changes only how operators group.**  With it and without it, the
parser either accepts the tokens both times, with as many nodes that have the same operands and
operators in the same order, or fails both times with the same error.  In both cases it stops behind
the same tokens, and its cursor is at the same index.  So it is at every level of the climb: where a
climb for any least precedence has stopped, the loop for the lowest one goes on and reads what right
recursion reads, up to the same tokens or to the same error. -/
theorem run_precedence_agree (assignments : Bool) (tokens : List Token) :
    ((∃ ns ms, (Parser.ofTokens ⟨false, assignments⟩ tokens).run.1 = .ok ns ∧
        (Parser.ofTokens ⟨true, assignments⟩ tokens).run.1 = .ok ms ∧
        ns.map Node.marks = ms.map Node.marks) ∨
      ∃ e, (Parser.ofTokens ⟨false, assignments⟩ tokens).run.1 = .error e ∧
        (Parser.ofTokens ⟨true, assignments⟩ tokens).run.1 = .error e) ∧
    (∃ consumed, tokens = consumed ++ (Parser.ofTokens ⟨false, assignments⟩ tokens).run.2.rest ∧
      tokens = consumed ++ (Parser.ofTokens ⟨true, assignments⟩ tokens).run.2.rest ∧
      (Parser.ofTokens ⟨false, assignments⟩ tokens).run.2.cursor.index = consumed.length ∧
      (Parser.ofTokens ⟨true, assignments⟩ tokens).run.2.cursor.index = consumed.length) ∧
    ∀ stop ts least,
      (climb ⟨true, assignments⟩ stop (least + 1) ts >>= fun r =>
          climbFrom ⟨true, assignments⟩ stop 1 r.1 r.2).map (fun r => (r.1.marks, r.2))
        = (expr ⟨false, assignments⟩ stop ts).map (fun r => (r.1.marks, r.2)) := by
  rw [← and_assoc]
  refine ⟨?_, climb_congr (by rfl) (by rfl)⟩
  have hsame : (expressions ⟨false, assignments⟩ (Parser.lastLocation tokens) tokens).map
        (fun r => (r.1.map Node.marks, r.2))
      = (expressions ⟨true, assignments⟩ (Parser.lastLocation tokens) tokens).map
        (fun r => (r.1.map Node.marks, r.2)) := expressions_congr (by rfl) _ _
  obtain ⟨consumed, hconsumed⟩ : leftover
      (expressions ⟨true, assignments⟩ (Parser.lastLocation tokens) tokens) <:+ tokens :=
    leftover_expressions
  rcases hplain : expressions ⟨false, assignments⟩ (Parser.lastLocation tokens) tokens with
      e | ⟨ns, rest⟩ <;>
    rcases htiered : expressions ⟨true, assignments⟩ (Parser.lastLocation tokens) tokens with
      e' | ⟨ms, rest'⟩ <;>
    simp only [hplain, htiered, Except.map, Except.error.injEq, Except.ok.injEq, Prod.mk.injEq,
      reduceCtorEq] at hsame hconsumed
  · subst hsame
    have hindex : ((Cursor.ofList tokens).moveTo e.rest).index = consumed.length :=
      Cursor.index_moveTo_ofList hconsumed.symm
    rw [run_of_error hplain, run_of_error htiered]
    exact ⟨.inr ⟨e.error, rfl, rfl⟩, consumed, hconsumed.symm, hconsumed.symm, hindex, hindex⟩
  · obtain ⟨hmarks, rfl⟩ := hsame
    have hindex : ((Cursor.ofList tokens).moveTo rest).index = consumed.length :=
      Cursor.index_moveTo_ofList hconsumed.symm
    rw [run_of_ok hplain, run_of_ok htiered]
    exact ⟨.inl ⟨ns, ms, rfl, rfl, hmarks⟩, consumed, hconsumed.symm, hconsumed.symm, hindex, hindex⟩

/-- The trees themselves differ already for `8 - 4 - 2`. -/
example :
    let tokens : List Token := [⟨.integer, "8", ⟨1, 1⟩⟩, ⟨.minus, "-", ⟨1, 3⟩⟩,
      ⟨.integer, "4", ⟨1, 5⟩⟩, ⟨.minus, "-", ⟨1, 7⟩⟩, ⟨.integer, "2", ⟨1, 9⟩⟩]
    (parse ⟨false, false⟩ tokens).toOption ≠ (parse ⟨true, false⟩ tokens).toOption := by
  decide +kernel

end LetScript
