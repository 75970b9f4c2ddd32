import LetScript.Proofs.Node.Phases
import Mathlib.Logic.Basic

/-!
# The switch for assignments

Switching assignments on adds operands: a name may be used, and a name before `=` is assigned.
Names also stand behind the keyword of a declaration and as types, and there the switch has no
effect.  So a reader with assignments and one without them do the same until the one without them
comes to a name where an operand should begin; there it stops, and the other one does not.

That much is what `Extends` says of two readers.  It passes from each reader to the reader that goes
on behind it, up to the parser in `parse_assignments_conservative`.
-/

namespace LetScript

variable {α β : Type} {x y : Except ParseFailure α} {stop : Location} {tokens : List Token}

/-- A reader stops at a name: it does not know it as the beginning of an operand. -/
def StopsAtName (x : Except ParseFailure α) : Prop :=
  ∃ t rest, t.kind = .identifier ∧ x = .error ⟨.unknownToken t, rest⟩

/-- The first reader never stops at a name, and it does what the second one does unless that one
stops at a name. -/
structure Extends (x y : Except ParseFailure α) : Prop where
  goesOn : ¬ StopsAtName x
  same : x = y ∨ StopsAtName y

/-! ### Readers that go on -/

@[simp] lemma not_stopsAtName_ok (a : α) : ¬ StopsAtName (.ok a) := by
  rintro ⟨t, rest, -, h⟩
  cases h

/-- A reader that goes on where another one stopped stops at a name if the other one did. -/
lemma StopsAtName.bind (h : StopsAtName x) (f : α → Except ParseFailure β) :
    StopsAtName (x >>= f) := by
  obtain ⟨t, rest, ht, rfl⟩ := h
  exact ⟨t, rest, ht, rfl⟩

lemma not_stopsAtName_bind (hx : ¬ StopsAtName x) {f : α → Except ParseFailure β}
    (hf : ∀ a, x = .ok a → ¬ StopsAtName (f a)) : ¬ StopsAtName (x >>= f) := by
  cases x with
  | error e =>
    rintro ⟨t, rest, ht, h⟩
    refine hx ⟨t, rest, ht, ?_⟩
    cases h
    rfl
  | ok a => exact hf a rfl

namespace Extends

lemma refl (hx : ¬ StopsAtName x) : Extends x x := ⟨hx, .inl rfl⟩

lemma bind (h : Extends x y) {f f' : α → Except ParseFailure β}
    (hf : ∀ a, x = .ok a → Extends (f a) (f' a)) : Extends (x >>= f) (y >>= f') := by
  refine ⟨not_stopsAtName_bind h.goesOn fun a ha => (hf a ha).goesOn, ?_⟩
  rcases h.same with rfl | hstops
  · cases x with
    | error e => exact .inl rfl
    | ok a => exact (hf a rfl).same
  · exact .inr (hstops.bind f')

lemma map (h : Extends x y) (f : α → β) : Extends (x.map f) (y.map f) := by
  have hbind : ∀ z : Except ParseFailure α, z.map f = z >>= fun a => .ok (f a) := by
    intro z
    cases z <;> rfl
  rw [hbind, hbind]
  exact h.bind fun a _ => refl (not_stopsAtName_ok _)

end Extends

/-! ### The heads of declarations -/

lemma not_stopsAtName_expect (kind : TokenKind) (expected : Text) :
    ¬ StopsAtName (expect stop kind expected tokens) := by
  rintro ⟨t, rest, -, h⟩
  cases tokens with
  | nil => simp [expect] at h
  | cons u us =>
    rw [expect] at h
    split at h
    · simp at h
    · split at h <;> simp at h

lemma not_stopsAtName_annotatedType : ¬ StopsAtName (annotatedType stop tokens) := by
  cases tokens with
  | nil => exact not_stopsAtName_ok _
  | cons t ts =>
    rw [annotatedType]
    split
    · exact not_stopsAtName_bind (not_stopsAtName_expect _ _) fun _ _ => not_stopsAtName_ok _
    · exact not_stopsAtName_ok _

/-- Between the keyword and the `=` of a declaration, names are expected. -/
lemma not_stopsAtName_declarationHeader (l : Location) :
    ¬ StopsAtName (declarationHeader stop l tokens) := by
  refine not_stopsAtName_bind (not_stopsAtName_expect _ _) fun _ _ => ?_
  refine not_stopsAtName_bind not_stopsAtName_annotatedType fun _ _ => ?_
  exact not_stopsAtName_bind (not_stopsAtName_expect _ _) fun _ _ => not_stopsAtName_ok _

/-! ### Operands, chains and expressions -/

section Readers

variable (precedence : Bool)

/-- The beginning of an operand is the only place where the switch is looked at, and only at a
name. -/
lemma opening_of_not_name {t : Token} (hname : t.kind ≠ .identifier) (g g' : Grammar)
    (ts : List Token) : opening g stop (t :: ts) = opening g' stop (t :: ts) := by
  cases hkind : t.kind with
  | identifier => exact absurd hkind hname
  | _ => simp only [opening, hkind]

lemma not_stopsAtName_opening {t : Token} (hname : t.kind ≠ .identifier) (g : Grammar)
    (ts : List Token) : ¬ StopsAtName (opening g stop (t :: ts)) := by
  rw [opening]
  split
  · rintro ⟨u, rest, -, h⟩
    simp at h
  · split
    · exact not_stopsAtName_ok _
    · rintro ⟨u, rest, -, h⟩
      simp at h
  · exact not_stopsAtName_ok _
  · refine not_stopsAtName_bind (not_stopsAtName_declarationHeader _) fun _ _ => ?_
    exact not_stopsAtName_ok _
  · contradiction
  · -- the token that no operand begins with is not a name
    rintro ⟨u, rest, hu, h⟩
    cases h
    exact hname hu

lemma opening_extends (stop : Location) (tokens : List Token) :
    Extends (opening ⟨precedence, true⟩ stop tokens) (opening ⟨precedence, false⟩ stop tokens) := by
  cases tokens with
  | nil =>
    refine .refl ?_
    rintro ⟨t, rest, -, h⟩
    simp [opening] at h
  | cons t ts =>
    by_cases hname : t.kind = .identifier
    · simp only [opening, hname]
      exact ⟨not_stopsAtName_ok _, .inr ⟨t, t :: ts, hname, rfl⟩⟩
    · rw [opening_of_not_name hname ⟨precedence, false⟩ ⟨precedence, true⟩]
      exact .refl (not_stopsAtName_opening hname _ ts)

lemma chain_extends (stop : Location) (tokens : List Token) :
    Extends (chain ⟨precedence, true⟩ stop tokens) (chain ⟨precedence, false⟩ stop tokens) := by
  induction hlen : tokens.length using Nat.strongRecOn generalizing tokens with
  | ind k ih =>
    rw [chain_eq_bind, chain_eq_bind]
    refine (opening_extends precedence stop tokens).bind ?_
    rintro ⟨o, body⟩ ho
    have hlt : body.length < k := by
      rw [← hlen]
      exact opening_length ho
    cases o with
    | header hd => exact (ih body.length hlt body rfl).map _
    | operand n =>
      cases body with
      | nil => exact .refl (not_stopsAtName_ok _)
      | cons t ts =>
        rw [chainFrom, chainFrom]
        rcases t.operator? with _ | op
        · exact .refl (not_stopsAtName_ok _)
        · exact (ih ts.length (Nat.lt_of_succ_lt hlt) ts rfl).map _

lemma expressions_extends (stop : Location) (tokens : List Token) :
    Extends (expressions ⟨precedence, true⟩ stop tokens)
      (expressions ⟨precedence, false⟩ stop tokens) := by
  induction hlen : tokens.length using Nat.strongRecOn generalizing tokens with
  | ind k ih =>
    by_cases hend : ∀ t ∈ tokens.head?, t.kind = .endOfFile
    · rw [expressions_of_end hend, expressions_of_end hend]
      exact .refl (not_stopsAtName_ok _)
    · cases tokens with
      | nil => simp at hend
      | cons t ts =>
        have ht : t.kind ≠ .endOfFile := by simpa using hend
        rw [expressions_eq_bind ht, expressions_eq_bind ht]
        refine (chain_extends precedence stop (t :: ts)).bind fun r hr => ?_
        have hlt : r.2.length < k := by
          rw [← hlen]
          exact chain_length hr
        exact (ih r.2.length hlt r.2 rfl).map _

end Readers

/-! ### The parser -/

/-- A token that no operand begins with is one of those that are read. -/
lemma mem_of_parse_eq_unknownToken {g : Grammar} {t : Token}
    (h : parse g tokens = .error (.unknownToken t)) : t ∈ tokens := by
  rcases parse_error_cases h with ⟨before, u, after, p, -, -, -, hfails⟩ | ⟨p, -, hruns⟩
  · exact List.mem_of_getElem? hfails.token
  · obtain ⟨expected, hmissing⟩ := hruns.missing
    cases hmissing

/-- The parser stops at a name if and only if the reader of its expressions does. -/
lemma stopsAtName_expressions_iff {g : Grammar} :
    StopsAtName (expressions g (Parser.lastLocation tokens) tokens) ↔
      ∃ t, t.kind = .identifier ∧ parse g tokens = .error (.unknownToken t) := by
  rw [parse]
  rcases h : expressions g (Parser.lastLocation tokens) tokens with ⟨e, rest⟩ | ⟨nodes, rest⟩
  · simp [run_of_error h, StopsAtName]
  · simp [run_of_ok h]

lemma parse_congr {g g' : Grammar} (h : expressions g (Parser.lastLocation tokens) tokens
    = expressions g' (Parser.lastLocation tokens) tokens) : parse g tokens = parse g' tokens := by
  rw [parse, parse]
  rcases hread : expressions g' (Parser.lastLocation tokens) tokens with e | ⟨nodes, rest⟩
  · rw [run_of_error hread, run_of_error (h.trans hread)]
  · rw [run_of_ok hread, run_of_ok (h.trans hread)]

/-- **Assignments are a conservative extension.**  For every list of tokens and either way of
grouping, exactly one of two things is the case: the parser gives the same answer with assignments
as without them, be it nodes or an error; or without them it fails at a name, which is one of the
tokens and which it does not know as the beginning of an operand. -/
theorem parse_assignments_conservative (precedence : Bool) (tokens : List Token) :
    Xor (parse ⟨precedence, true⟩ tokens = parse ⟨precedence, false⟩ tokens)
      (∃ t ∈ tokens, t.kind = .identifier ∧
        parse ⟨precedence, false⟩ tokens = .error (.unknownToken t)) := by
  have hextends := expressions_extends precedence (Parser.lastLocation tokens) tokens
  by_cases hstops :
      StopsAtName (expressions ⟨precedence, false⟩ (Parser.lastLocation tokens) tokens)
  · obtain ⟨t, ht, hfails⟩ := stopsAtName_expressions_iff.1 hstops
    refine .inr ⟨⟨t, mem_of_parse_eq_unknownToken hfails, ht, hfails⟩, fun hsame => ?_⟩
    -- the same answer with assignments would be a stop at a name
    exact hextends.goesOn (stopsAtName_expressions_iff.2 ⟨t, ht, hsame.trans hfails⟩)
  · refine .inl ⟨parse_congr (hextends.same.resolve_right hstops), ?_⟩
    rintro ⟨t, -, ht, hfails⟩
    exact hstops (stopsAtName_expressions_iff.2 ⟨t, ht, hfails⟩)

/-- The name of a declaration and its type are read with the switch off; a name that is used is not,
at whatever depth it stands. -/
example :
    let typed : List Token := [⟨.letKeyword, "let", ⟨1, 1⟩⟩, ⟨.identifier, "x", ⟨1, 5⟩⟩,
      ⟨.colon, ":", ⟨1, 6⟩⟩, ⟨.identifier, "Integer", ⟨1, 8⟩⟩, ⟨.equals, "=", ⟨1, 16⟩⟩]
    let used : List Token := [⟨.integer, "1", ⟨1, 18⟩⟩, ⟨.plus, "+", ⟨1, 20⟩⟩,
      ⟨.identifier, "y", ⟨1, 22⟩⟩]
    (parse ⟨false, true⟩ (typed ++ used.take 1)).toOption
        = (parse ⟨false, false⟩ (typed ++ used.take 1)).toOption ∧
      (parse ⟨false, true⟩ (typed ++ used)).isOk = true ∧
      (parse ⟨false, false⟩ (typed ++ used)).isOk = false := by
  decide +kernel

end LetScript
