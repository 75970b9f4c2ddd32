import LetScript.Proofs.Node.Grouping
import Mathlib.Data.List.Forall2

/-!
# What is read, and as which trees

A list of tokens *derives* trees if the tokens are those that write the trees, one tree behind the
other, and if the operators of the trees group as the grammar says.  The main results say that the
parser accepts exactly the lists that derive some trees, and that it answers with these trees: by
precedence in `parse_eq_ok_iff_tiered`, to the right in `parse_eq_ok_iff_rightward`.
-/

namespace LetScript

/-! ### Tokens that fit marks -/

/-- The kind of the tokens that write an operator. -/
def Operator.kind? : Operator → Option TokenKind
  | plus => some .plus
  | minus => some .minus
  | times => some .asterisk
  | divide => some .slash
  | unknown _ => none

/-- A token fits a mark if it has the kind that the mark asks for, the value, and the place, as far
as the tree keeps them.  Numbers are compared as numbers; the keyword and the signs are told by
their kinds. -/
def Mark.Fits : Mark → Token → Prop
  | number n l, t => t.kind = .integer ∧ t.value.decimal? = some n.toNat ∧ t.location = l
  | text s l, t => t.kind = .string ∧ t.value = s ∧ t.location = l
  | name s l, t => t.kind = .identifier ∧ t.value = s ∧ ∀ l' ∈ l, t.location = l'
  | keyword l, t => t.kind = .letKeyword ∧ t.location = l
  | colon, t => t.kind = .colon
  | equals, t => t.kind = .equals
  | operator op l, t => op.kind? = some t.kind ∧ t.location = l

/-- The tokens fit the marks one by one. -/
abbrev Written : List Mark → List Token → Prop := List.Forall₂ Mark.Fits

lemma Mark.Fits.kind_ne {m : Mark} {t : Token} (h : m.Fits t) : t.kind ≠ .endOfFile := by
  intro hkind
  cases m with
  | operator op l => cases op <;> simp [Fits, Operator.kind?, hkind] at h
  | _ => simp [Fits, hkind] at h

lemma Written.kind_ne {ms : List Mark} {tokens : List Token} (h : Written ms tokens) :
    ∀ t ∈ tokens, t.kind ≠ .endOfFile := by
  induction h with
  | nil => simp
  | cons hm _ ih => exact List.forall_mem_cons.2 ⟨hm.kind_ne, ih⟩

lemma Written.exists_fits {ms : List Mark} {tokens : List Token} (h : Written ms tokens) {m : Mark}
    (hm : m ∈ ms) : ∃ t ∈ tokens, m.Fits t := by
  induction h with
  | nil => cases hm
  | @cons m' t ms tokens hfits _ ih =>
    rcases List.mem_cons.1 hm with rfl | hm
    · exact ⟨t, List.mem_cons_self, hfits⟩
    · obtain ⟨t', ht', hfits'⟩ := ih hm
      exact ⟨t', List.mem_cons_of_mem _ ht', hfits'⟩

lemma Written.append {ms ns : List Mark} {ts us : List Token} (h : Written ms ts)
    (h' : Written ns us) : Written (ms ++ ns) (ts ++ us) := List.rel_append h h'

lemma written_append {ms ns : List Mark} {tokens : List Token} (h : Written (ms ++ ns) tokens) :
    ∃ ts us, tokens = ts ++ us ∧ Written ms ts ∧ Written ns us := by
  induction ms generalizing tokens with
  | nil => exact ⟨[], tokens, rfl, .nil, h⟩
  | cons m ms ih =>
    cases h with
    | cons hm h =>
      obtain ⟨ts, us, rfl, hts, hus⟩ := ih h
      exact ⟨_ :: ts, us, rfl, .cons hm hts, hus⟩

lemma written_singleton {m : Mark} {tokens : List Token} :
    Written [m] tokens ↔ ∃ t, tokens = [t] ∧ m.Fits t := by
  simp [Written, List.forall₂_cons_left_iff, and_comm]

lemma word?_eq_some_iff {t : Text} {n : UInt32} : t.word? = some n ↔ t.decimal? = some n.toNat := by
  rw [Text.word?]
  rcases t.decimal? with _ | k
  · simp
  · simp only [Option.ite_none_right_eq_some, Option.some.injEq]
    constructor
    · rintro ⟨hlt, rfl⟩
      exact (UInt32.toNat_ofNat_of_lt' hlt).symm
    · rintro rfl
      exact ⟨n.toNat_lt, UInt32.ofNat_toNat⟩

lemma operator?_eq_some_iff {t : Token} {op : Operator} :
    t.operator? = some op ↔ op.kind? = some t.kind := by
  rw [Token.operator?]
  cases t.kind <;> cases op <;> simp [Operator.kind?]

/-! ### The beginning of an operand -/

/-- The marks of what stands in front of an expression. -/
def Header.marks : Header → List Mark
  | declaration name type l => .keyword l :: .name name none :: (typeMarks type ++ [.equals])
  | assignment name l => [.name name (some l), .equals]

lemma Header.marks_close (h : Header) (expr : Node) :
    (h.close expr).marks = h.marks ++ expr.marks := by
  cases h <;> simp [close, marks, Node.marks]

/-- The marks of the beginning of an operand. -/
def Opening.marks : Opening → List Mark
  | operand n => n.marks
  | header h => h.marks

/-- An operand that is complete is a literal or a reference, and names can be assigned and used
only where the grammar says so. -/
def Opening.Allowed (g : Grammar) : Opening → Prop
  | operand n => n.isAtom = true ∧ n.Regular g
  | header (.declaration _ _ _) => True
  | header (.assignment _ _) => g.assignments = true

variable {g : Grammar} {stop : Location} {tokens rest : List Token}

lemma bind_eq_ok_iff {ε α β : Type} {x : Except ε α} {f : α → Except ε β} {b : β} :
    x >>= f = .ok b ↔ ∃ a, x = .ok a ∧ f a = .ok b := by
  cases x <;> simp [bind, Except.bind]

lemma expect_eq_ok_iff {kind : TokenKind} (hkind : kind ≠ .endOfFile) {expected : Text}
    {t : Token} :
    expect stop kind expected tokens = .ok (t, rest) ↔ tokens = t :: rest ∧ t.kind = kind := by
  cases tokens with
  | nil => simp [expect]
  | cons u us =>
    rw [expect]
    split
    · next hend =>
      simp only [reduceCtorEq, List.cons.injEq, false_iff, not_and]
      rintro ⟨rfl, rfl⟩ rfl
      exact hkind hend
    · split
      · next hu =>
        simp only [Except.ok.injEq, Prod.mk.injEq, List.cons.injEq]
        constructor
        · rintro ⟨rfl, rfl⟩
          exact ⟨⟨rfl, rfl⟩, hu⟩
        · exact fun h => h.1
      · next hu =>
        simp only [reduceCtorEq, List.cons.injEq, false_iff, not_and]
        rintro ⟨rfl, rfl⟩ ht
        exact hu ht

lemma annotatedType_eq_none_iff : annotatedType stop tokens = .ok (none, rest) ↔
    tokens = rest ∧ ∀ t ∈ rest.head?, t.kind ≠ .colon := by
  cases tokens with
  | nil => cases rest <;> simp [annotatedType]
  | cons t ts =>
    rw [annotatedType]
    split
    · next hcolon =>
      simp only [bind_eq_ok_iff, pure, Except.pure, Except.ok.injEq, Prod.mk.injEq, reduceCtorEq,
        false_and, and_false, exists_false, false_iff, not_and]
      rintro rfl hne
      exact hne t rfl hcolon
    · next hcolon =>
      simp only [Except.ok.injEq, Prod.mk.injEq, true_and]
      constructor
      · rintro rfl
        exact ⟨rfl, by simpa using hcolon⟩
      · exact fun h => h.1

lemma annotatedType_eq_some_iff {type : TypeName} :
    annotatedType stop tokens = .ok (some type, rest) ↔ ∃ t u, tokens = t :: u :: rest ∧
      t.kind = .colon ∧ u.kind = .identifier ∧ (⟨u.value, u.location⟩ : TypeName) = type := by
  cases tokens with
  | nil => simp [annotatedType]
  | cons t ts =>
    rw [annotatedType]
    split
    · next hcolon =>
      simp only [bind_eq_ok_iff, pure, Except.pure, Except.ok.injEq, Prod.mk.injEq, Prod.exists,
        expect_eq_ok_iff (show TokenKind.identifier ≠ .endOfFile by decide), List.cons.injEq,
        Option.some.injEq]
      constructor
      · rintro ⟨u, us, ⟨rfl, hu⟩, htype, rfl⟩
        exact ⟨t, u, ⟨rfl, rfl⟩, hcolon, hu, htype⟩
      · rintro ⟨t', u, ⟨rfl, rfl⟩, -, hu, htype⟩
        exact ⟨u, rest, ⟨rfl, hu⟩, htype, rfl⟩
    · next hcolon =>
      simp only [Except.ok.injEq, Prod.mk.injEq, reduceCtorEq, false_and, List.cons.injEq,
        false_iff, not_exists, not_and]
      rintro t' u ⟨rfl, -⟩ ht'
      exact absurd ht' hcolon

/-- A type is read exactly if it is written; without a colon there is none. -/
lemma annotatedType_eq_ok_iff {type : Option TypeName} :
    annotatedType stop tokens = .ok (type, rest) ↔ ∃ used, tokens = used ++ rest ∧
      Written (typeMarks type) used ∧ (type = none → ∀ t ∈ rest.head?, t.kind ≠ .colon) := by
  cases type with
  | none => simp [annotatedType_eq_none_iff, typeMarks]
  | some type =>
    rw [annotatedType_eq_some_iff]
    constructor
    · rintro ⟨t, u, rfl, ht, hu, rfl⟩
      exact ⟨[t, u], rfl, .cons ht (.cons ⟨hu, rfl, by simp⟩ .nil), by simp⟩
    · rintro ⟨used, rfl, hused, -⟩
      obtain ⟨t, us, ht, hus, rfl⟩ := List.forall₂_cons_left_iff.1 hused
      obtain ⟨u, rfl, hu, hname, hl⟩ := written_singleton.1 hus
      exact ⟨t, u, rfl, ht, hu, by rw [hname, hl _ rfl]⟩

lemma declarationHeader_eq_ok_iff {l : Location} {h : Header} :
    declarationHeader stop l tokens = .ok (h, rest) ↔ ∃ name type used,
      h = .declaration name type l ∧ tokens = used ++ rest ∧
      Written (.name name none :: (typeMarks type ++ [.equals])) used := by
  simp only [declarationHeader, bind_eq_ok_iff, pure, Except.pure, Except.ok.injEq, Prod.mk.injEq,
    Prod.exists, expect_eq_ok_iff (show TokenKind.identifier ≠ .endOfFile by decide),
    expect_eq_ok_iff (show TokenKind.equals ≠ .endOfFile by decide), annotatedType_eq_ok_iff]
  constructor
  · rintro ⟨t, _, ⟨rfl, ht⟩, type, _, ⟨used, rfl, hused, -⟩, e, _, ⟨rfl, he⟩, rfl, rfl⟩
    refine ⟨t.value, type, t :: (used ++ [e]), rfl, by simp, ?_⟩
    exact .cons ⟨ht, rfl, by simp⟩ (hused.append (.cons he .nil))
  · rintro ⟨name, type, used, rfl, rfl, hused⟩
    obtain ⟨t, us, ⟨ht, rfl, -⟩, hus, rfl⟩ := List.forall₂_cons_left_iff.1 hused
    obtain ⟨vs, es, rfl, hvs, hes⟩ := written_append hus
    obtain ⟨e, rfl, he⟩ := written_singleton.1 hes
    have hkind : e.kind = .equals := he
    refine ⟨t, vs ++ e :: rest, ⟨by simp, ht⟩, type, e :: rest, ⟨vs, rfl, hvs, ?_⟩, e, rest,
      ⟨rfl, he⟩, rfl, rfl⟩
    simp [hkind]

lemma nameOpening_cases (name : Token) (tokens : List Token) :
    (∃ e rest, tokens = e :: rest ∧ e.kind = .equals ∧
      nameOpening name tokens = (.header (.assignment name.value name.location), rest)) ∨
    ((∀ e ∈ tokens.head?, e.kind ≠ .equals) ∧
      nameOpening name tokens = (.operand (.reference name.value name.location), tokens)) := by
  cases tokens with
  | nil => simp [nameOpening]
  | cons t ts =>
    by_cases ht : t.kind = .equals
    · exact .inl ⟨t, ts, rfl, ht, by simp [nameOpening, ht]⟩
    · exact .inr ⟨by simpa using ht, by simp [nameOpening, ht]⟩

/-- What is read at the beginning of an operand is what is written there, and is allowed. -/
lemma opening_eq_ok {o : Opening} (h : opening g stop tokens = .ok (o, rest)) :
    ∃ used, tokens = used ++ rest ∧ Written o.marks used ∧ o.Allowed g := by
  cases tokens with
  | nil => simp [opening] at h
  | cons t ts =>
    rw [opening] at h
    split at h
    · simp at h
    · next hkind =>
      split at h
      · next n hn =>
        obtain ⟨rfl, rfl⟩ : Opening.operand (.literal (.integer n) t.location) = o ∧ ts = rest := by
          simpa using h
        refine ⟨[t], rfl, written_singleton.2 ⟨t, rfl, hkind, word?_eq_some_iff.1 hn, rfl⟩, ?_⟩
        exact ⟨rfl, Node.regular_literal⟩
      · simp at h
    · next hkind =>
      obtain ⟨rfl, rfl⟩ :
          Opening.operand (.literal (.string t.value) t.location) = o ∧ ts = rest := by
        simpa using h
      exact ⟨[t], rfl, written_singleton.2 ⟨t, rfl, hkind, rfl, rfl⟩, rfl, Node.regular_literal⟩
    · next hkind =>
      obtain ⟨⟨hd, ts'⟩, hhd, heq⟩ := bind_eq_ok_iff.1 h
      obtain ⟨rfl, rfl⟩ : Opening.header hd = o ∧ ts' = rest := by
        simpa [pure, Except.pure] using heq
      obtain ⟨name, type, used, rfl, rfl, hused⟩ := declarationHeader_eq_ok_iff.1 hhd
      exact ⟨t :: used, rfl, .cons ⟨hkind, rfl⟩ hused, trivial⟩
    · next hkind =>
      split at h
      · next hassign =>
        obtain ⟨rfl, rfl⟩ : (nameOpening t ts).1 = o ∧ (nameOpening t ts).2 = rest := by
          simpa [Prod.ext_iff] using h
        rcases nameOpening_cases t ts with ⟨e, ts, rfl, he, heq⟩ | ⟨-, heq⟩
        · rw [heq]
          exact ⟨[t, e], rfl, .cons ⟨hkind, rfl, by simp⟩ (.cons he .nil), hassign⟩
        · rw [heq]
          refine ⟨[t], rfl, written_singleton.2 ⟨t, rfl, hkind, rfl, by simp⟩, rfl, ?_⟩
          exact Node.regular_reference.2 hassign
      · simp at h
    · simp at h

/-- What is written and allowed at the beginning of an operand is read.  A name is read as a
reference if it is not followed by the sign of an assignment. -/
lemma opening_of_written {o : Opening} {used : List Token} (h : Written o.marks used)
    (ho : o.Allowed g) (hrest : ∀ n, o = .operand n → ∀ t ∈ rest.head?, t.kind ≠ .equals) :
    opening g stop (used ++ rest) = .ok (o, rest) := by
  rcases o with n | hd
  · obtain ⟨hatom, hregular⟩ := ho
    cases n with
    | literal v l =>
      cases v with
      | integer n =>
        obtain ⟨t, rfl, ht, hvalue, rfl⟩ := written_singleton.1 h
        simp [opening, ht, word?_eq_some_iff.2 hvalue]
      | string s =>
        obtain ⟨t, rfl, ht, rfl, rfl⟩ := written_singleton.1 h
        simp [opening, ht]
    | reference name l =>
      obtain ⟨t, rfl, ht, rfl, hl⟩ := written_singleton.1 h
      obtain rfl : t.location = l := hl l rfl
      have hassign : g.assignments = true := Node.regular_reference.1 hregular
      rcases nameOpening_cases t rest with ⟨e, ts, rfl, he, -⟩ | ⟨-, heq⟩
      · exact absurd he (hrest _ rfl e rfl)
      · simp [opening, ht, hassign, heq]
    | _ => simp [Node.isAtom] at hatom
  · cases hd with
    | declaration name type l =>
      obtain ⟨t, us, ⟨ht, rfl⟩, hus, rfl⟩ := List.forall₂_cons_left_iff.1 h
      have heq : declarationHeader stop t.location (us ++ rest)
          = .ok (.declaration name type t.location, rest) :=
        declarationHeader_eq_ok_iff.2 ⟨name, type, us, rfl, rfl, hus⟩
      simp [opening, ht, heq]
    | assignment name l =>
      obtain ⟨t, us, ⟨ht, rfl, hl⟩, hus, rfl⟩ := List.forall₂_cons_left_iff.1 h
      obtain ⟨e, rfl, he⟩ := written_singleton.1 hus
      obtain rfl : t.location = l := hl l rfl
      have hassign : g.assignments = true := ho
      have hkind : e.kind = .equals := he
      simp [opening, ht, hassign, nameOpening, hkind]

/-! ### Chains -/

lemma Header.isBinary_close (h : Header) (expr : Node) : (h.close expr).isBinary = false := by
  cases h <;> rfl

lemma Header.regular_close {h : Header} {expr : Node} :
    (h.close expr).Regular g ↔ (Opening.header h).Allowed g ∧ expr.Regular g := by
  cases h <;> simp [close, Opening.Allowed]

/-- An operand that is complete makes a chain of its own. -/
lemma operand_eq_ok {n : Node} (h : opening g stop tokens = .ok (.operand n, rest)) :
    ∃ used, tokens = used ++ rest ∧ Written (Chain.mk n []).marks used ∧ Chain.Allowed g n [] := by
  obtain ⟨us, rfl, hus, hatom, hregular⟩ := opening_eq_ok h
  rw [Chain.marks_operand]
  exact ⟨us, rfl, hus, .last (Node.isBinary_of_isAtom hatom) hregular⟩

/-- What is read as a chain is what is written there, and its operands are allowed. -/
lemma chain_eq_ok {c : Chain} (h : chain g stop tokens = .ok (c, rest)) :
    ∃ used, tokens = used ++ rest ∧ Written c.marks used ∧ Chain.Allowed g c.first c.links := by
  fun_induction chain g stop tokens generalizing c rest with
  | case1 => cases h
  | case2 => cases h
  | case3 tokens hd body ho c' rest' hc ih =>
    cases h
    obtain ⟨us, rfl, hus, hhd⟩ := opening_eq_ok ho
    obtain ⟨vs, rfl, hvs, hallowed⟩ := ih hc
    refine ⟨us ++ vs, by simp, ?_, .last (hd.isBinary_close _) ?_⟩
    · rw [Chain.marks_operand, Header.marks_close, Chain.marks_group]
      exact hus.append hvs
    · exact Header.regular_close.2 ⟨hhd, hallowed.regular_group⟩
  | case4 tokens n ho =>
    cases h
    exact operand_eq_ok ho
  | case5 tokens n t ts ho =>
    cases h
    exact operand_eq_ok ho
  | case6 => cases h
  | case7 tokens n t ts ho op hop c' rest' hc ih =>
    cases h
    obtain ⟨us, rfl, hus, hatom, hregular⟩ := opening_eq_ok ho
    obtain ⟨vs, rfl, hvs, hallowed⟩ := ih hc
    have ht : (Mark.operator op t.location).Fits t := ⟨operator?_eq_some_iff.1 hop, rfl⟩
    rw [Chain.marks_link]
    exact ⟨us ++ t :: vs, by simp, hus.append (.cons ht hvs), .link hatom hregular hallowed⟩

/-- The tokens cannot belong to the expression before them: they begin neither with an operator nor
with the sign of an assignment. -/
def StartsAfresh (tokens : List Token) : Prop :=
  ∀ t ∈ tokens.head?, t.kind ≠ .equals ∧ t.operator? = none

lemma opening_of_atom {n : Node} (hatom : n.isAtom = true) (hregular : n.Regular g)
    {used : List Token} (h : Written n.marks used) (hrest : ∀ t ∈ rest.head?, t.kind ≠ .equals) :
    opening g stop (used ++ rest) = .ok (.operand n, rest) :=
  opening_of_written (o := .operand n) h ⟨hatom, hregular⟩ fun _ _ => hrest

/-- A complete tree that is written before an operator is read as the beginning of a chain. -/
lemma chain_of_written_append {n : Node} {used : List Token} (h : Written n.marks used)
    (hregular : n.Regular g) (hclosed : n.isOpen = false) {t : Token} {op : Operator}
    (hop : t.operator? = some op) {body : List Token} {c : Chain}
    (hc : chain g stop body = .ok (c, rest)) :
    chain g stop (used ++ t :: body)
      = .ok (⟨n.toChain.first, n.toChain.links ++ ⟨op, t.location, c.first⟩ :: c.links⟩, rest) := by
  induction n generalizing used t op body c with
  | binary left op' right l ihl ihr =>
    obtain ⟨hleft, hregularl, hregularr⟩ := hregular.operands
    obtain ⟨us, vs, rfl, hus, hvs⟩ := written_append h
    obtain ⟨t', ws, ⟨ht', rfl⟩, hws, rfl⟩ := List.forall₂_cons_left_iff.1 hvs
    have hright := ihr hws hregularr hclosed hop hc
    have hboth := ihl hus hregularl hleft (operator?_eq_some_iff.2 ht') hright
    simpa [Node.toChain] using hboth
  | declaration name type expr l _ => simp [Node.isOpen] at hclosed
  | assignment name expr l _ => simp [Node.isOpen] at hclosed
  | _ =>
    refine chain_of_link (opening_of_atom rfl hregular h ?_) hop hc
    rintro u ⟨⟩ hkind
    simp [Token.operator?, hkind] at hop

/-- The expression behind a header is read, once it can be read on its own. -/
lemma chain_of_written_header (hd : Header) {expr : Node} {used : List Token}
    (h : Written (hd.close expr).marks used) (hregular : (hd.close expr).Regular g)
    (hexpr : ∀ {us}, Written expr.marks us → chain g stop (us ++ rest) = .ok (expr.toChain, rest)) :
    chain g stop (used ++ rest) = .ok ((hd.close expr).toChain, rest) := by
  obtain ⟨hallowed, hregular⟩ := Header.regular_close.1 hregular
  rw [Header.marks_close] at h
  obtain ⟨us, vs, rfl, hus, hvs⟩ := written_append h
  have hopening : opening g stop (us ++ (vs ++ rest)) = .ok (.header hd, vs ++ rest) :=
    opening_of_written (o := .header hd) hus hallowed (by simp)
  rw [List.append_assoc, chain_of_header hopening (hexpr hvs), Chain.group_toChain hregular,
    Node.toChain_of_isBinary (hd.isBinary_close expr)]

/-- What is written and regular is read, if the tokens behind it start afresh. -/
lemma chain_of_written {n : Node} {used : List Token} (h : Written n.marks used)
    (hregular : n.Regular g) (hrest : StartsAfresh rest) :
    chain g stop (used ++ rest) = .ok (n.toChain, rest) := by
  induction n generalizing used with
  | binary left op right l _ ihr =>
    obtain ⟨hleft, hregularl, hregularr⟩ := hregular.operands
    obtain ⟨us, vs, rfl, hus, hvs⟩ := written_append h
    obtain ⟨t, ws, ⟨ht, rfl⟩, hws, rfl⟩ := List.forall₂_cons_left_iff.1 hvs
    rw [List.append_assoc]
    exact chain_of_written_append hus hregularl hleft (operator?_eq_some_iff.2 ht)
      (ihr hws hregularr)
  | declaration name type expr l ih =>
    exact chain_of_written_header (.declaration name type l) h hregular
      fun hus => ih hus (Node.regular_declaration.1 hregular)
  | assignment name expr l ih =>
    exact chain_of_written_header (.assignment name l) h hregular
      fun hus => ih hus (Node.regular_assignment.1 hregular).2
  | _ =>
    exact chain_of_operand (opening_of_atom rfl hregular h fun t ht => (hrest t ht).1)
      fun t ht => (hrest t ht).2

/-! ### Expressions -/

/-- The first token of an expression is not the end of the script, and starts afresh. -/
lemma startsAfresh_of_written {n : Node} {ms : List Mark} (h : Written (n.marks ++ ms) tokens) :
    StartsAfresh tokens ∧ ∃ t ts, tokens = t :: ts ∧ t.kind ≠ .endOfFile := by
  induction n generalizing ms with
  | binary left op right l ihl _ =>
    rw [Node.marks, List.append_assoc] at h
    exact ihl h
  | literal v l =>
    cases v with
    | integer n =>
      obtain ⟨t, ts, ht, -, rfl⟩ := List.forall₂_cons_left_iff.1 h
      simp [StartsAfresh, Token.operator?, ht.1]
    | string s =>
      obtain ⟨t, ts, ht, -, rfl⟩ := List.forall₂_cons_left_iff.1 h
      simp [StartsAfresh, Token.operator?, ht.1]
  | _ =>
    obtain ⟨t, ts, ht, -, rfl⟩ := List.forall₂_cons_left_iff.1 h
    simp [StartsAfresh, Token.operator?, ht.1]

lemma expressions_of_end (h : ∀ t ∈ tokens.head?, t.kind = .endOfFile) :
    expressions g stop tokens = .ok ([], tokens) := by
  cases tokens with
  | nil => rw [expressions]
  | cons t ts => rw [expressions, if_pos (h t rfl)]

lemma expressions_cons {t : Token} (ht : t.kind ≠ .endOfFile) (ts : List Token) :
    expressions g stop (t :: ts) = expr g stop (t :: ts) >>= fun r =>
      (expressions g stop r.2).map fun q => (r.1 :: q.1, q.2) := by
  rw [expressions, if_neg ht]
  split
  · next e h =>
    rw [h]
    rfl
  · next n body h =>
    rw [h]
    show _ = Except.map _ (expressions g stop body)
    cases expressions g stop body <;> rfl

lemma expressions_eq_bind {t : Token} (ht : t.kind ≠ .endOfFile) (ts : List Token) :
    expressions g stop (t :: ts) = chain g stop (t :: ts) >>= fun r =>
      (expressions g stop r.2).map fun q => (r.1.group g.precedence :: q.1, q.2) := by
  rw [expressions_cons ht, expr_eq_chain]
  rcases chain g stop (t :: ts) with e | r <;> rfl

/-- What is read as expressions is what is written there, up to the end of the script. -/
lemma expressions_eq_ok {nodes : List Node} (h : expressions g stop tokens = .ok (nodes, rest)) :
    ∃ used, tokens = used ++ rest ∧ Written (nodes.flatMap Node.marks) used ∧
      (∀ n ∈ nodes, n.Regular g) ∧ ∀ t ∈ rest.head?, t.kind = .endOfFile := by
  fun_induction expressions g stop tokens generalizing nodes rest with
  | case1 =>
    cases h
    exact ⟨[], rfl, .nil, by simp, by simp⟩
  | case2 t ts hend =>
    cases h
    exact ⟨[], rfl, .nil, by simp, by simpa using hend⟩
  | case3 => cases h
  | case4 => cases h
  | case5 t ts hend n rest' hn nodes' rest'' hnodes ih =>
    cases h
    obtain ⟨c, hc, rfl⟩ := expr_eq_ok_iff.1 hn
    obtain ⟨us, hus, hwritten, hallowed⟩ := chain_eq_ok hc
    obtain ⟨vs, rfl, hvs, hregular, hrest⟩ := ih hnodes
    refine ⟨us ++ vs, by rw [hus, List.append_assoc], ?_, ?_, hrest⟩
    · rw [List.flatMap_cons, Chain.marks_group]
      exact hwritten.append hvs
    · simpa using ⟨hallowed.regular_group, hregular⟩

/-- What is written and regular is read as expressions, up to the end of the script. -/
lemma expressions_of_written {nodes : List Node} {used : List Token}
    (h : Written (nodes.flatMap Node.marks) used) (hregular : ∀ n ∈ nodes, n.Regular g)
    (hrest : ∀ t ∈ rest.head?, t.kind = .endOfFile) :
    expressions g stop (used ++ rest) = .ok (nodes, rest) := by
  induction nodes generalizing used with
  | nil =>
    obtain rfl : used = [] := by simpa using h
    exact expressions_of_end hrest
  | cons n nodes ih =>
    obtain ⟨hn, hnodes⟩ := List.forall_mem_cons.1 hregular
    rw [List.flatMap_cons] at h
    obtain ⟨-, t, ts, hused, ht⟩ := startsAfresh_of_written h
    obtain ⟨us, vs, rfl, hus, hvs⟩ := written_append h
    -- behind the first expression comes another one or the end of the script
    have hafresh : StartsAfresh (vs ++ rest) := by
      cases nodes with
      | nil =>
        obtain rfl : vs = [] := by simpa using hvs
        intro u hu
        simp [Token.operator?, hrest u hu]
      | cons m nodes =>
        obtain ⟨hafresh, u, ws, rfl, -⟩ := startsAfresh_of_written hvs
        exact hafresh
    have hchain : chain g stop (us ++ vs ++ rest) = .ok (n.toChain, vs ++ rest) := by
      rw [List.append_assoc]
      exact chain_of_written hus hn hafresh
    rw [hused, List.cons_append] at hchain ⊢
    rw [expressions_eq_bind ht, hchain]
    show Except.map _ (expressions g stop (vs ++ rest)) = _
    rw [ih hvs hnodes, Chain.group_toChain hn]
    rfl

/-! ### The parser -/

/-- The tokens derive the nodes, where binary operations are to have a given shape. -/
structure Derives (shape : Node → Bool) (assignments : Bool) (tokens : List Token)
    (nodes : List Node) : Prop where
  /-- The tokens write the nodes one behind the other. -/
  written : Written (nodes.flatMap Node.marks) tokens
  /-- Every binary operation, at any depth, has the shape. -/
  shaped : ∀ n ∈ nodes, ∀ m ∈ n.parts, shape m = true
  /-- Names are assigned and used only where that is switched on. -/
  names : ∀ n ∈ nodes, ∀ m ∈ n.parts, m.usesName = true → assignments = true

/-- The tokens before the end of the script, or all tokens if no token marks the end. -/
def script (tokens : List Token) : List Token := tokens.takeWhile (·.kind ≠ .endOfFile)

lemma parse_eq_ok {g : Grammar} {tokens : List Token} {nodes : List Node}
    (h : (parse g tokens).toOption = some nodes) : parse g tokens = .ok nodes := by
  revert h
  cases parse g tokens <;> simp [Except.toOption]

/-- The tokens of a script that has been read are consumed. -/
lemma run_of_ok {nodes : List Node}
    (h : expressions g (Parser.lastLocation tokens) tokens = .ok (nodes, rest)) :
    (Parser.ofTokens g tokens).run
      = (.ok nodes, ⟨g, Parser.lastLocation tokens, (Cursor.ofList tokens).moveTo rest⟩) := by
  let p := Parser.ofTokens g tokens
  have hp : expressions p.grammar p.stop p.rest = .ok (nodes, rest) := h
  rw [Parser.run, hp]
  rfl

lemma run_of_error {e : ParseFailure}
    (h : expressions g (Parser.lastLocation tokens) tokens = .error e) :
    (Parser.ofTokens g tokens).run
      = (.error e.error, ⟨g, Parser.lastLocation tokens, (Cursor.ofList tokens).moveTo e.rest⟩) := by
  let p := Parser.ofTokens g tokens
  have hp : expressions p.grammar p.stop p.rest = .error e := h
  rw [Parser.run, hp]
  rfl

lemma parse_eq_ok_iff {nodes : List Node} : parse g tokens = .ok nodes ↔
    ∃ rest, expressions g (Parser.lastLocation tokens) tokens = .ok (nodes, rest) := by
  rcases h : expressions g (Parser.lastLocation tokens) tokens with e | ⟨nodes', rest⟩
  · rw [parse, run_of_error h]
    simp
  · rw [parse, run_of_ok h]
    simp

lemma script_append {used : List Token} (hused : ∀ t ∈ used, t.kind ≠ .endOfFile)
    (hrest : ∀ t ∈ rest.head?, t.kind = .endOfFile) : script (used ++ rest) = used := by
  rw [script, List.takeWhile_append_of_pos (by simpa using hused)]
  cases rest with
  | nil => simp
  | cons t ts => simp [hrest t rfl]

lemma exists_eq_script_append (tokens : List Token) :
    ∃ rest, tokens = script tokens ++ rest ∧ ∀ t ∈ rest.head?, t.kind = .endOfFile := by
  refine ⟨tokens.dropWhile (·.kind ≠ .endOfFile), by simp [script], fun t ht => ?_⟩
  have h := List.head?_dropWhile_not (fun t : Token => decide (t.kind ≠ .endOfFile)) tokens
  rw [Option.mem_def.1 ht] at h
  simpa using h

/-- **The parser accepts exactly what is written and regular.** -/
theorem parse_eq_ok_iff_written {nodes : List Node} : parse g tokens = .ok nodes ↔
    Written (nodes.flatMap Node.marks) (script tokens) ∧ ∀ n ∈ nodes, n.Regular g := by
  rw [parse_eq_ok_iff]
  constructor
  · rintro ⟨rest, h⟩
    obtain ⟨used, rfl, hused, hregular, hrest⟩ := expressions_eq_ok h
    rw [script_append hused.kind_ne hrest]
    exact ⟨hused, hregular⟩
  · rintro ⟨hwritten, hregular⟩
    obtain ⟨rest, htokens, hrest⟩ := exists_eq_script_append tokens
    refine ⟨rest, ?_⟩
    nth_rewrite 2 [htokens]
    exact expressions_of_written hwritten hregular hrest

lemma parse_eq_ok_iff_derives {nodes : List Node} :
    parse g tokens = .ok nodes ↔ Derives g.shape g.assignments (script tokens) nodes := by
  have hregular : ∀ n : Node, n.Regular g ↔
      ∀ m ∈ n.parts, g.shape m = true ∧ (m.usesName = true → g.assignments = true) := by
    intro n
    simp only [Node.Regular, Node.regular, Bool.and_eq_true, Bool.or_eq_true, Bool.not_eq_true',
      ← Bool.not_eq_true, ← imp_iff_not_or]
  rw [parse_eq_ok_iff_written]
  constructor
  · rintro ⟨hwritten, h⟩
    exact ⟨hwritten, fun n hn m hm => ((hregular n).1 (h n hn) m hm).1,
      fun n hn m hm => ((hregular n).1 (h n hn) m hm).2⟩
  · rintro ⟨hwritten, hshaped, hnames⟩
    exact ⟨hwritten, fun n hn => (hregular n).2 fun m hm => ⟨hshaped n hn m hm, hnames n hn m hm⟩⟩

/-- No list of tokens derives two lists of nodes. -/
lemma Derives.unique {nodes nodes' : List Node}
    (h : Derives g.shape g.assignments (script tokens) nodes)
    (h' : Derives g.shape g.assignments (script tokens) nodes') : nodes = nodes' := by
  have hparse : parse g tokens = .ok nodes := parse_eq_ok_iff_derives.2 h
  rw [parse_eq_ok_iff_derives.2 h'] at hparse
  exact (Except.ok.inj hparse).symm

/-! ### Values of the keyword and the signs -/

/-- How the tokens of a mark are spelled, if they are all spelled alike. -/
def Mark.spelling? : Mark → Option Text
  | keyword _ => some "let"
  | colon => some ":"
  | equals => some "="
  | operator op _ => some op.symbol
  | _ => none

/-- A token fits a mark to the letter if the keyword and the signs are also told by their values. -/
def Mark.FitsToLetter (m : Mark) (t : Token) : Prop := m.Fits t ∧ ∀ s ∈ m.spelling?, t.value = s

/-- The tokens of `1 + 2`, but with another value of the sign. -/
def misspelledSum : List Token :=
  [⟨.integer, "1", ⟨1, 1⟩⟩, ⟨.plus, "minus", ⟨1, 3⟩⟩, ⟨.integer, "2", ⟨1, 5⟩⟩]

/-- The node of `1 + 2`. -/
def plainSum : Node :=
  .binary (.literal (.integer 1) ⟨1, 1⟩) .plus (.literal (.integer 2) ⟨1, 5⟩) ⟨1, 3⟩

lemma not_fitsToLetter_misspelled (m : Mark) (l : Location) :
    ¬ m.FitsToLetter ⟨.plus, "minus", l⟩ := by
  rintro ⟨hfits, hspelled⟩
  cases m with
  | operator op l' =>
    obtain ⟨hkind, -⟩ := hfits
    obtain rfl : op = .plus := by cases op <;> simp [Operator.kind?] at hkind ⊢
    have hvalue : ("minus" : Text) = Operator.plus.symbol := hspelled _ rfl
    exact absurd hvalue (by decide)
  | _ => simp [Mark.Fits] at hfits

/-- No nodes are written to the letter where a sign is misspelled. -/
lemma not_writtenToLetter_misspelledSum (nodes : List Node) :
    ¬ List.Forall₂ Mark.FitsToLetter (nodes.flatMap Node.marks) (script misspelledSum) := by
  intro h
  obtain ⟨_, ms, -, htail, -⟩ := List.forall₂_cons_right_iff.1 h
  obtain ⟨m, _, hm, -⟩ := List.forall₂_cons_right_iff.1 htail
  exact not_fitsToLetter_misspelled m ⟨1, 3⟩ hm

/-! ### The two grammars -/

/-- **The grammar with precedence.**  With precedence, the parser accepts a list of tokens exactly
if the tokens up to the end of the script derive nodes whose operators group by precedence and from
the left, and its answer is these nodes.  There are no other nodes that the tokens derive.  The
keyword and the signs are told by their kinds alone. -/
theorem parse_eq_ok_iff_tiered (assignments : Bool) (tokens : List Token) :
    (∀ nodes, parse ⟨true, assignments⟩ tokens = .ok nodes ↔
      Derives Node.tiered assignments (script tokens) nodes) ∧
    ∀ nodes nodes', Derives Node.tiered assignments (script tokens) nodes →
      Derives Node.tiered assignments (script tokens) nodes' → nodes = nodes' := by
  constructor
  · intro nodes
    exact parse_eq_ok_iff_derives (g := ⟨true, assignments⟩)
  · intro nodes nodes' h h'
    exact Derives.unique (g := ⟨true, assignments⟩) h h'

/-- With precedence the value of a sign is not read: the sum is read as `1 + 2`, although its tokens
write no nodes to the letter. -/
theorem parse_tiered_misspelledSum :
    parse ⟨true, false⟩ misspelledSum = .ok [plainSum] ∧
      ∀ nodes : List Node,
        ¬ List.Forall₂ Mark.FitsToLetter (nodes.flatMap Node.marks) (script misspelledSum) :=
  ⟨parse_eq_ok (by decide +kernel), not_writtenToLetter_misspelledSum⟩

/-- **The grammar without precedence.**  Without precedence, the parser accepts a list of tokens
exactly if the tokens up to the end of the script derive nodes whose operators group to the right,
and its answer is these nodes.  There are no other nodes that the tokens derive.  The keyword and the
signs are told by their kinds alone. -/
theorem parse_eq_ok_iff_rightward (assignments : Bool) (tokens : List Token) :
    (∀ nodes, parse ⟨false, assignments⟩ tokens = .ok nodes ↔
      Derives Node.rightward assignments (script tokens) nodes) ∧
    ∀ nodes nodes', Derives Node.rightward assignments (script tokens) nodes →
      Derives Node.rightward assignments (script tokens) nodes' → nodes = nodes' := by
  constructor
  · intro nodes
    exact parse_eq_ok_iff_derives (g := ⟨false, assignments⟩)
  · intro nodes nodes' h h'
    exact Derives.unique (g := ⟨false, assignments⟩) h h'

/-- Nor is it read without precedence. -/
theorem parse_rightward_misspelledSum :
    parse ⟨false, false⟩ misspelledSum = .ok [plainSum] ∧
      ∀ nodes : List Node,
        ¬ List.Forall₂ Mark.FitsToLetter (nodes.flatMap Node.marks) (script misspelledSum) :=
  ⟨parse_eq_ok (by decide +kernel), not_writtenToLetter_misspelledSum⟩

end LetScript
