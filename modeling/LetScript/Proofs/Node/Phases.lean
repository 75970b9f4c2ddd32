import LetScript.Proofs.Node.Precedence

/-!
# The earliest token to blame

What the parser can read next depends on very little of what it has read: there are no brackets, so
nine *phases* tell it all.  Here the parser is compared with the machine that has these phases as its
states and takes one token at a time.  The machine keeps no trees and never looks ahead; it only says
where it gets stuck, and with which error.

`read_eq_verdict_expressions` says that the parser and the machine agree: they fail on the same lists,
with the same error, at the same token.  Since every phase can be completed to the end of a script,
and since the machine gets stuck at a token before it has seen the tokens behind it, the parser never
blames a token later or earlier than it could.
-/

namespace LetScript

/-! ### The machine -/

/-- What the parser has just read, as far as it matters for what may come next. -/
inductive Phase where
  /-- Between two expressions, or before the first one. -/
  | between
  /-- Behind a literal. -/
  | literal
  /-- Behind a name that is used or assigned. -/
  | name
  /-- Before an operand that has to come. -/
  | operand
  /-- Behind the keyword of a declaration. -/
  | keyword
  /-- Behind the name of a declaration. -/
  | declared
  /-- Behind the colon of a declaration. -/
  | colon
  /-- Behind the type of a declaration. -/
  | type
  /-- Behind the end of the script. -/
  | finished
deriving DecidableEq

namespace Phase

/-- A token that must be of a given kind, and then leads to the phase `p`. -/
def require (kind : TokenKind) (expected : Text) (p : Phase) (t : Token) : Except ParseError Phase :=
  if t.kind = .endOfFile then .error (.unexpectedEnd t expected)
  else if t.kind = kind then .ok p
  else .error (.unexpectedToken t expected)

/-- The first token of an operand. -/
def openOperand (g : Grammar) (t : Token) : Except ParseError Phase :=
  match t.kind with
  | .endOfFile => .error (.unexpectedEnd t "expression")
  | .integer => if t.value.word?.isSome then .ok literal else .error (.invalidInteger t)
  | .string => .ok literal
  | .letKeyword => .ok keyword
  | .identifier => if g.assignments then .ok name else .error (.unknownToken t)
  | _ => .error (.unknownToken t)

/-- The first token behind a complete expression. -/
def openExpression (g : Grammar) (t : Token) : Except ParseError Phase :=
  if t.kind = .endOfFile then .ok finished else openOperand g t

/-- The first token behind a literal or a name. -/
def goOn (g : Grammar) (t : Token) : Except ParseError Phase :=
  if t.operator?.isSome then .ok operand else openExpression g t

/-- One step of the machine. -/
def next (g : Grammar) : Phase → Token → Except ParseError Phase
  | between, t => openExpression g t
  | literal, t => goOn g t
  | name, t => if t.kind = .equals then .ok operand else goOn g t
  | operand, t => openOperand g t
  | keyword, t => require .identifier "identifier" declared t
  | declared, t => if t.kind = .colon then .ok colon else require .equals "'='" operand t
  | colon, t => require .identifier "type identifier" type t
  | type, t => require .equals "'='" operand t
  | finished, _ => .ok finished

/-- What is missing when the tokens end in a phase, if anything is. -/
def expected? : Phase → Option Text
  | operand => some "expression"
  | keyword => some "identifier"
  | declared | type => some "'='"
  | colon => some "type identifier"
  | between | literal | name | finished => none

/-- The error at which the machine gets stuck, and the tokens that are still ahead then.  A list
without an end marker ends at `stop`. -/
def read (g : Grammar) (stop : Location) : Phase → List Token → Option (ParseError × List Token)
  | p, [] => p.expected?.map fun expected => (.unexpectedEnd (Token.endAt stop) expected, [])
  | p, t :: ts =>
    match p.next g t with
    | .error e => some (e, t :: ts)
    | .ok q => q.read g stop ts

/-- The tokens lead from one phase to another. -/
def Advances (g : Grammar) (p : Phase) (tokens : List Token) (q : Phase) : Prop :=
  tokens.foldlM (next g) p = .ok q

variable {g : Grammar} {stop : Location} {p q : Phase} {t : Token} {tokens : List Token}
  {e : ParseError}

lemma read_of_next (h : p.next g t = .ok q) (ts : List Token) :
    p.read g stop (t :: ts) = q.read g stop ts := by
  rw [read, h]

lemma read_of_next_error (h : p.next g t = .error e) (ts : List Token) :
    p.read g stop (t :: ts) = some (e, t :: ts) := by
  rw [read, h]

/-- Two phases that take the first token alike read alike. -/
lemma read_congr (hend : p.expected? = q.expected?)
    (hnext : ∀ t ∈ tokens.head?, p.next g t = q.next g t) :
    p.read g stop tokens = q.read g stop tokens := by
  cases tokens with
  | nil => rw [read, read, hend]
  | cons t ts => rw [read, read, hnext t rfl]

/-! ### Runs of the machine -/

lemma advances_cons {ts : List Token} {r : Phase} :
    Advances g p (t :: ts) r ↔ ∃ q, p.next g t = .ok q ∧ Advances g q ts r := by
  rw [Advances, List.foldlM_cons, bind_eq_ok_iff]
  rfl

lemma read_append {before : List Token} (h : Advances g p before q) (ahead : List Token) :
    p.read g stop (before ++ ahead) = q.read g stop ahead := by
  induction before generalizing p with
  | nil =>
    obtain rfl : p = q := by simpa [Advances, pure, Except.pure] using h
    rfl
  | cons t before ih =>
    obtain ⟨p', ht, hbefore⟩ := advances_cons.1 h
    rw [List.cons_append, read_of_next ht, ih hbefore]

/-- A phase is stuck before the tokens ahead: it has no step for the first of them, or there is none
and something is missing. -/
def Stuck (g : Grammar) (stop : Location) (p : Phase) : List Token → ParseError → Prop
  | [], e => ∃ expected, p.expected? = some expected ∧ e = .unexpectedEnd (Token.endAt stop) expected
  | t :: _, e => p.next g t = .error e

/-- The machine fails where it is stuck. -/
lemma read_eq_some_iff {ahead : List Token} :
    p.read g stop tokens = some (e, ahead) ↔
      ∃ before q, tokens = before ++ ahead ∧ Advances g p before q ∧ Stuck g stop q ahead e := by
  constructor
  · intro h
    induction tokens generalizing p with
    | nil =>
      obtain ⟨expected, hexpected, heq⟩ := Option.map_eq_some_iff.1 h
      obtain ⟨rfl, rfl⟩ := Prod.mk.inj heq
      exact ⟨[], p, rfl, rfl, expected, hexpected, rfl⟩
    | cons t ts ih =>
      rcases ht : p.next g t with e' | q
      · rw [read_of_next_error ht] at h
        obtain ⟨rfl, rfl⟩ := Prod.mk.inj (Option.some.inj h)
        exact ⟨[], p, rfl, rfl, ht⟩
      · rw [read_of_next ht] at h
        obtain ⟨before, r, rfl, hbefore, hstuck⟩ := ih h
        exact ⟨t :: before, r, rfl, advances_cons.2 ⟨q, ht, hbefore⟩, hstuck⟩
  · rintro ⟨before, q, rfl, hbefore, hstuck⟩
    rw [read_append hbefore]
    cases ahead with
    | nil =>
      obtain ⟨expected, hexpected, rfl⟩ := hstuck
      simp [read, hexpected]
    | cons t ts => exact read_of_next_error hstuck ts

/-! ### Errors of the machine -/

lemma require_eq_error {kind : TokenKind} {expected : Text} (h : require kind expected p t = .error e) :
    e.token = t := by
  unfold require at h
  split at h
  · cases h
    rfl
  · split at h
    · cases h
    · cases h
      rfl

lemma openOperand_eq_error (h : openOperand g t = .error e) : e.token = t := by
  unfold openOperand at h
  split at h
  · cases h
    rfl
  · split at h
    · cases h
    · cases h
      rfl
  · cases h
  · cases h
  · split at h
    · cases h
    · cases h
      rfl
  · cases h
    rfl

lemma openExpression_eq_error (h : openExpression g t = .error e) : e.token = t := by
  unfold openExpression at h
  split at h
  · cases h
  · exact openOperand_eq_error h

lemma goOn_eq_error (h : goOn g t = .error e) : e.token = t := by
  unfold goOn at h
  split at h
  · cases h
  · exact openExpression_eq_error h

/-- The machine blames the token that it has no step for. -/
lemma token_of_next_eq_error (h : p.next g t = .error e) : e.token = t := by
  cases p with
  | between => exact openExpression_eq_error h
  | literal => exact goOn_eq_error h
  | name =>
    rw [next] at h
    split at h
    · cases h
    · exact goOn_eq_error h
  | operand => exact openOperand_eq_error h
  | keyword => exact require_eq_error h
  | declared =>
    rw [next] at h
    split at h
    · cases h
    · exact require_eq_error h
  | colon => exact require_eq_error h
  | type => exact require_eq_error h
  | finished => cases h

/-- The end of the script leads to the last phase or to an error. -/
lemma eq_finished_of_next (ht : t.kind = .endOfFile) (h : p.next g t = .ok q) : q = finished := by
  cases p <;>
    simp_all [next, openExpression, goOn, openOperand, require, Token.operator?]

/-- Nothing leads away from the last phase. -/
lemma eq_finished_of_advances (h : Advances g finished tokens q) : q = finished := by
  induction tokens with
  | nil => simpa [Advances, pure, Except.pure, eq_comm] using h
  | cons t ts ih =>
    obtain ⟨p, hp, hts⟩ := advances_cons.1 h
    cases hp
    exact ih hts

lemma eq_finished_of_mem (h : Advances g p tokens q) (ht : t ∈ tokens) (hend : t.kind = .endOfFile) :
    q = finished := by
  induction tokens generalizing p with
  | nil => cases ht
  | cons u us ih =>
    obtain ⟨p', hp', hus⟩ := advances_cons.1 h
    rcases List.mem_cons.1 ht with rfl | ht
    · obtain rfl := eq_finished_of_next hend hp'
      exact eq_finished_of_advances hus
    · exact ih hus ht

/-! ### Every phase can be completed -/

/-- A name, wherever it is needed. -/
def someName : Token := ⟨.identifier, "x", .start⟩

/-- The sign before an expression. -/
def someEquals : Token := ⟨.equals, "=", .start⟩

/-- An operand. -/
def someNumber : Token := ⟨.integer, "1", .start⟩

/-- Tokens that complete a phase to the end of an expression. -/
def completion : Phase → List Token
  | operand => [someNumber]
  | keyword | colon => [someName, someEquals, someNumber]
  | declared | type => [someEquals, someNumber]
  | between | literal | name | finished => []

/-- **Every phase can be completed.** -/
theorem read_completion (g : Grammar) (stop : Location) (p : Phase) :
    p.read g stop p.completion = none := by
  have hword : ("1" : Text).word?.isSome = true := by decide +kernel
  have hnumber : operand.next g someNumber = .ok literal := by
    simp [next, openOperand, someNumber, hword]
  have hoperand : operand.read g stop [someNumber] = none := read_of_next hnumber []
  cases p with
  | operand => exact hoperand
  | keyword => exact hoperand
  | declared => exact hoperand
  | colon => exact hoperand
  | type => exact hoperand
  | between => rfl
  | literal => rfl
  | name => rfl
  | finished => rfl

end Phase

/-! ### The parser and the machine -/

/-- The tokens from the one that an error blames.  A number has been consumed when it turns out to be
too large; any other token has not. -/
def ParseFailure.ahead (f : ParseFailure) : List Token :=
  match f.error with
  | .invalidInteger t => t :: f.rest
  | _ => f.rest

/-- What becomes of a reader's answer: its error stands, and what it has read is passed on. -/
def verdict {α : Type} (x : Except ParseFailure (α × List Token))
    (k : α × List Token → Option (ParseError × List Token)) : Option (ParseError × List Token) :=
  match x with
  | .error f => some (f.error, f.ahead)
  | .ok r => k r

section Readers

variable {α β : Type} {g : Grammar} {stop : Location} {tokens : List Token}

lemma verdict_bind (x : Except ParseFailure (α × List Token))
    (f : α × List Token → Except ParseFailure (β × List Token))
    (k : β × List Token → Option (ParseError × List Token)) :
    verdict (x >>= f) k = verdict x fun r => verdict (f r) k := by
  cases x <;> rfl

lemma verdict_map (x : Except ParseFailure (α × List Token))
    (f : α × List Token → β × List Token)
    (k : β × List Token → Option (ParseError × List Token)) :
    verdict (x.map f) k = verdict x fun r => k (f r) := by
  cases x <;> rfl

open Phase

/-- A phase that requires a token reads as the parser does when it expects one. -/
lemma read_of_require {p q : Phase} {kind : TokenKind} {expected : Text}
    (hend : p.expected? = some expected)
    (hnext : ∀ t ∈ tokens.head?, p.next g t = require kind expected q t) :
    p.read g stop tokens
      = verdict (expect stop kind expected tokens) fun r => q.read g stop r.2 := by
  cases tokens with
  | nil =>
    rw [Phase.read, hend]
    rfl
  | cons t ts =>
    rw [Phase.read, hnext t rfl, require, expect]
    by_cases hfile : t.kind = .endOfFile
    · rw [if_pos hfile, if_pos hfile]
      rfl
    · rw [if_neg hfile, if_neg hfile]
      by_cases hkind : t.kind = kind
      · rw [if_pos hkind, if_pos hkind]
        rfl
      · rw [if_neg hkind, if_neg hkind]
        rfl

lemma read_declared : declared.read g stop tokens
    = verdict (annotatedType stop tokens >>= fun r => expect stop .equals "'='" r.2)
        fun r => Phase.operand.read g stop r.2 := by
  have hplain : (∀ t ∈ tokens.head?, t.kind ≠ .colon) → declared.read g stop tokens
      = verdict (expect stop .equals "'='" tokens) fun r => Phase.operand.read g stop r.2 :=
    fun h => read_of_require rfl fun t ht => if_neg (h t ht)
  cases tokens with
  | nil => exact hplain (by simp)
  | cons t ts =>
    by_cases hcolon : t.kind = .colon
    · have htype : type.read g stop = fun us =>
          verdict (expect stop .equals "'='" us) fun r => Phase.operand.read g stop r.2 :=
        funext fun us => read_of_require rfl fun _ _ => rfl
      have hnext : declared.next g t = .ok colon := if_pos hcolon
      rw [read_of_next hnext, annotatedType, if_pos hcolon, verdict_bind, verdict_bind,
        read_of_require (p := colon) rfl fun _ _ => rfl, htype]
      rfl
    · rw [annotatedType, if_neg hcolon]
      exact hplain (by simpa using hcolon)

/-- Behind the keyword, the machine reads the header of a declaration. -/
lemma read_keyword (l : Location) : keyword.read g stop tokens
    = verdict (declarationHeader stop l tokens) fun r => Phase.operand.read g stop r.2 := by
  rw [declarationHeader, verdict_bind, read_of_require (p := keyword) rfl fun _ _ => rfl]
  congr
  funext r
  rw [read_declared, verdict_bind, verdict_bind]
  congr
  funext r'
  rw [verdict_bind]
  rfl

/-- How the machine goes on behind the beginning of an operand. -/
def readBehind (g : Grammar) (stop : Location) :
    Opening × List Token → Option (ParseError × List Token)
  | (.header _, rest) => Phase.operand.read g stop rest
  | (.operand _, rest) => literal.read g stop rest

lemma read_name (t : Token) : name.read g stop tokens = readBehind g stop (nameOpening t tokens) := by
  rcases nameOpening_cases t tokens with ⟨e, rest, rfl, he, heq⟩ | ⟨hne, heq⟩
  · have hnext : name.next g e = .ok .operand := if_pos he
    rw [heq, read_of_next hnext]
    rfl
  · rw [heq]
    exact read_congr rfl fun u hu => if_neg (hne u hu)

lemma read_operand_eq_opening : Phase.operand.read g stop tokens
    = verdict (opening g stop tokens) (readBehind g stop) := by
  cases tokens with
  | nil => rfl
  | cons t ts =>
    obtain ⟨kind, value, l⟩ := t
    cases kind with
    | integer =>
      rcases hword : value.word? with _ | k <;>
        simp [Phase.read, next, openOperand, opening, verdict, ParseFailure.ahead, readBehind, hword]
    | letKeyword =>
      have hnext : Phase.operand.next g ⟨.letKeyword, value, l⟩ = .ok keyword := rfl
      rw [read_of_next hnext, opening, verdict_bind]
      exact read_keyword l
    | identifier =>
      cases hassign : g.assignments with
      | true =>
        have hnext : Phase.operand.next g ⟨.identifier, value, l⟩ = .ok name := if_pos hassign
        rw [read_of_next hnext, opening, if_pos hassign]
        exact read_name _
      | false =>
        have hnext : Phase.operand.next g ⟨.identifier, value, l⟩
            = .error (.unknownToken ⟨.identifier, value, l⟩) := by simp [next, openOperand, hassign]
        rw [read_of_next_error hnext, opening, hassign]
        rfl
    | _ => rfl

/-- **The machine reads a chain as the parser does.** -/
lemma read_operand : Phase.operand.read g stop tokens
    = verdict (chain g stop tokens) fun r => between.read g stop r.2 := by
  induction hlen : tokens.length using Nat.strongRecOn generalizing tokens with
  | ind k ih =>
    rw [read_operand_eq_opening, chain_eq_bind, verdict_bind]
    rcases ho : opening g stop tokens with f | ⟨o, rest⟩
    · rfl
    show readBehind g stop (o, rest) = verdict (chainFrom g stop (o, rest)) _
    have hlt : rest.length < k := hlen ▸ opening_length ho
    cases o with
    | header hd =>
      rw [chainFrom, verdict_map]
      exact ih rest.length hlt rfl
    | operand n =>
      cases rest with
      | nil => rfl
      | cons t ts =>
        rw [chainFrom, readBehind]
        rcases hop : t.operator? with _ | op
        · -- the chain ends here, so the next token begins an expression or ends the script
          refine read_congr rfl ?_
          rintro u ⟨⟩
          simp [next, goOn, hop]
        · have hnext : literal.next g t = .ok .operand := by simp [next, goOn, hop]
          rw [read_of_next hnext, verdict_map]
          exact ih ts.length (Nat.lt_of_succ_lt hlt) rfl

lemma read_finished : finished.read g stop tokens = none := by
  induction tokens with
  | nil => rfl
  | cons t ts ih => exact ih

/-- **The machine and the parser agree.**  They fail on the same tokens, with the same error, and with
the same tokens ahead. -/
theorem read_eq_verdict_expressions : between.read g stop tokens
    = verdict (expressions g stop tokens) fun _ => none := by
  induction hlen : tokens.length using Nat.strongRecOn generalizing tokens with
  | ind k ih =>
    cases tokens with
    | nil =>
      rw [expressions]
      rfl
    | cons t ts =>
      by_cases hend : t.kind = .endOfFile
      · have hnext : between.next g t = .ok finished := if_pos hend
        rw [expressions, if_pos hend, read_of_next hnext]
        exact read_finished
      · have hnext : between.next g t = Phase.operand.next g t := if_neg hend
        have hsame : between.read g stop (t :: ts) = Phase.operand.read g stop (t :: ts) := by
          rw [Phase.read, Phase.read, hnext]
        rw [hsame, read_operand, expressions_eq_bind hend, verdict_bind]
        rcases hc : chain g stop (t :: ts) with f | ⟨c, rest⟩
        · rfl
        show between.read g stop rest = verdict (Except.map _ (expressions g stop rest)) _
        rw [verdict_map]
        exact ih rest.length (hlen ▸ chain_length hc) rfl

end Readers

/-! ### The parser -/

section Parser

open Phase

variable {g : Grammar} {stop : Location} {tokens ahead : List Token} {e : ParseError}

/-- How many tokens are consumed from the blamed one on. -/
def ParseError.consumes : ParseError → Nat
  | invalidInteger _ => 1
  | _ => 0

lemma ParseFailure.drop_ahead (f : ParseFailure) : f.ahead.drop f.error.consumes = f.rest := by
  obtain ⟨error, rest⟩ := f
  cases error <;> rfl

/-- The parser fails as the machine does, and leaves the tokens ahead. -/
lemma run_eq_error_of_read
    (h : between.read g (Parser.lastLocation tokens) tokens = some (e, ahead)) :
    (Parser.ofTokens g tokens).run = (.error e, ⟨g, Parser.lastLocation tokens,
      (Cursor.ofList tokens).moveTo (ahead.drop e.consumes)⟩) := by
  rw [read_eq_verdict_expressions] at h
  rcases hf : expressions g (Parser.lastLocation tokens) tokens with f | r
  · rw [hf] at h
    obtain ⟨rfl, rfl⟩ := Prod.mk.inj (Option.some.inj h)
    rw [run_of_error hf, f.drop_ahead]
  · rw [hf] at h
    cases h

lemma exists_read_of_parse_error (h : parse g tokens = .error e) :
    ∃ ahead, between.read g (Parser.lastLocation tokens) tokens = some (e, ahead) := by
  rw [read_eq_verdict_expressions]
  rcases hf : expressions g (Parser.lastLocation tokens) tokens with f | r
  · rw [parse, run_of_error hf] at h
    cases h
    exact ⟨f.ahead, rfl⟩
  · rw [parse, run_of_ok hf] at h
    cases h

lemma exists_parse_of_read_eq_none
    (h : between.read g (Parser.lastLocation tokens) tokens = none) :
    ∃ nodes, parse g tokens = .ok nodes := by
  rw [read_eq_verdict_expressions] at h
  rcases hf : expressions g (Parser.lastLocation tokens) tokens with f | ⟨nodes, rest⟩
  · rw [hf] at h
    cases h
  · exact ⟨nodes, parse_eq_ok_iff.2 ⟨rest, hf⟩⟩

/-- The tokens can be extended to a list that the parser accepts. -/
def Viable (g : Grammar) (tokens : List Token) : Prop :=
  ∃ more nodes, parse g (tokens ++ more) = .ok nodes

lemma Viable.of_advances {p : Phase} (h : Advances g between tokens p) : Viable g tokens := by
  refine ⟨p.completion, exists_parse_of_read_eq_none ?_⟩
  rw [read_append h, read_completion]

/-- What is wrong with a token does not depend on the tokens behind it. -/
lemma parse_eq_error_of_advances {before : List Token} {p : Phase} {t : Token}
    (h : Advances g between before p) (ht : p.next g t = .error e) (after : List Token) :
    parse g (before ++ t :: after) = .error e := by
  have hread : between.read g (Parser.lastLocation (before ++ t :: after)) (before ++ t :: after)
      = some (e, t :: after) := by
    rw [read_append h, read_of_next_error ht]
  rw [parse, run_eq_error_of_read hread]

/-- The parser fails at the token number `i`: its error names the token, and it has consumed what comes
before the token, and the token itself if it is a number. -/
structure FailsAt (g : Grammar) (tokens : List Token) (i : Nat) (e : ParseError) : Prop where
  error : (Parser.ofTokens g tokens).run.1 = .error e
  token : tokens[i]? = some e.token
  rest : (Parser.ofTokens g tokens).run.2.rest = tokens.drop (i + e.consumes)

/-- The parser fails because the tokens run out, none of them being the end of the script. -/
structure RunsOut (g : Grammar) (tokens : List Token) (e : ParseError) : Prop where
  error : (Parser.ofTokens g tokens).run.1 = .error e
  unended : ∀ t ∈ tokens, t.kind ≠ .endOfFile
  missing : ∃ expected, e = .unexpectedEnd (Token.endAt (Parser.lastLocation tokens)) expected

/-- A failure of the parser, seen from the machine: it is stuck at a token or at the end of the
list. -/
lemma parse_error_cases (h : parse g tokens = .error e) :
    (∃ before t after p, tokens = before ++ t :: after ∧ Advances g between before p ∧
      p.next g t = .error e ∧ FailsAt g tokens before.length e) ∨
    (∃ p, Advances g between tokens p ∧ RunsOut g tokens e) := by
  obtain ⟨ahead, hread⟩ := exists_read_of_parse_error h
  have hrun := run_eq_error_of_read hread
  obtain ⟨before, p, htokens, hbefore, hstuck⟩ := read_eq_some_iff.1 hread
  cases ahead with
  | nil =>
    right
    obtain ⟨expected, hexpected, rfl⟩ := hstuck
    obtain rfl : tokens = before := by rw [htokens, List.append_nil]
    refine ⟨p, hbefore, h, fun t ht hend => ?_, expected, rfl⟩
    -- behind the end of the script nothing would be missing
    rw [eq_finished_of_mem hbefore ht hend] at hexpected
    cases hexpected
  | cons t after =>
    left
    refine ⟨before, t, after, p, htokens, hbefore, hstuck, h, ?_, ?_⟩
    · rw [token_of_next_eq_error hstuck, htokens]
      simp
    · rw [hrun, htokens, ← List.drop_drop, List.drop_left]
      rfl

/-- The parser fails at one token. -/
lemma FailsAt.unique {i j : Nat} (hi : FailsAt g tokens i e) (hj : FailsAt g tokens j e) : i = j := by
  have hrest := congrArg List.length (hi.rest.symm.trans hj.rest)
  have hilt : i < tokens.length := (List.getElem?_eq_some_iff.1 hi.token).1
  have hjlt : j < tokens.length := (List.getElem?_eq_some_iff.1 hj.token).1
  have hconsumes : e.consumes ≤ 1 := by
    cases e <;> simp [ParseError.consumes]
  simp only [List.length_drop] at hrest
  omega

lemma RunsOut.not_failsAt (h : RunsOut g tokens e) (i : Nat) : ¬ FailsAt g tokens i e := by
  intro hi
  obtain ⟨expected, rfl⟩ := h.missing
  exact h.unended _ (List.mem_of_getElem? hi.token) rfl

/-- **The parser blames the earliest possible token.**  If it fails, then at a token of the list or
because the list runs out.  The tokens before the blamed one can be extended to a list that the parser
accepts, and every list that begins with the tokens up to and including the blamed one fails with the
same error.  A list that runs out can itself be extended to one that the parser accepts. -/
theorem parse_blames_earliest (g : Grammar) (tokens : List Token) (e : ParseError) :
    (parse g tokens = .error e ↔ (∃ i, FailsAt g tokens i e) ∨ RunsOut g tokens e) ∧
    (∀ i, FailsAt g tokens i e → Viable g (tokens.take i) ∧
      ∀ others, tokens.take (i + 1) <+: others → parse g others = .error e) ∧
    (RunsOut g tokens e → Viable g tokens) := by
  refine ⟨⟨fun h => ?_, ?_⟩, fun i hi => ?_, fun h => ?_⟩
  · rcases parse_error_cases h with ⟨before, t, after, p, -, -, -, hfails⟩ | ⟨p, -, hruns⟩
    · exact .inl ⟨before.length, hfails⟩
    · exact .inr hruns
  · rintro (⟨i, hi⟩ | h)
    · exact hi.error
    · exact h.error
  · rcases parse_error_cases hi.error with ⟨before, t, after, p, rfl, hbefore, ht, hfails⟩ | ⟨p, -, hruns⟩
    · obtain rfl : i = before.length := hi.unique hfails
      rw [List.take_left]
      refine ⟨.of_advances hbefore, ?_⟩
      rintro others ⟨more, rfl⟩
      rw [List.take_length_add_append, List.append_assoc]
      exact parse_eq_error_of_advances hbefore ht more
    · exact absurd hi (hruns.not_failsAt i)
  · rcases parse_error_cases h.error with ⟨before, t, after, p, -, -, -, hfails⟩ | ⟨p, hp, -⟩
    · exact absurd hfails (h.not_failsAt _)
    · exact .of_advances hp

end Parser

end LetScript
