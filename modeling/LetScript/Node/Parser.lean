import LetScript.Cursor
import LetScript.Node.Basic
import LetScript.Text.Decimal
import LetScript.Token.Basic

/-!
# Reading tokens into trees

An expression is a chain of operands with operators between them.  An operand is a literal, a
reference, or a declaration or assignment; the latter two take the whole rest of the chain as
their own expression, so they can only stand at its end.  A chain is read in one of two ways.
Without precedence, what stands behind an operator is read as an expression again.  With
precedence, the reader climbs: it takes operators into its tree as long as they bind at least as
tightly as the least precedence that it was given, and reads what stands behind each of them by a
climb of its own, for operators that bind tighter.
-/

namespace LetScript

/-- Which scripts are read, and how their operators group. -/
structure Grammar where
  /-- Whether `*` and `/` bind tighter than `+` and `-`, all from the left.  Otherwise every
  operator takes everything to its right as its right operand. -/
  precedence : Bool := false
  /-- Whether names may be used and assigned. -/
  assignments : Bool := false
deriving DecidableEq

/-! ## Errors -/

/-- Why tokens could not be read into trees. -/
inductive ParseError where
  /-- The tokens ended where something was still expected. -/
  | unexpectedEnd (token : Token) (expected : Text)
  /-- No operand begins with this token. -/
  | unknownToken (token : Token)
  /-- Another token was expected. -/
  | unexpectedToken (token : Token) (expected : Text)
  /-- The number is no decimal number of 32 bits. -/
  | invalidInteger (token : Token)
deriving DecidableEq

namespace ParseError

/-- The offending token; at the end of the script, the end marker. -/
def token : ParseError → Token
  | unexpectedEnd t _ => t
  | unknownToken t => t
  | unexpectedToken t _ => t
  | invalidInteger t => t

/-- What was expected instead, where the error says so. -/
def expected : ParseError → Text
  | unexpectedEnd _ e => e
  | unexpectedToken _ e => e
  | unknownToken _ => ∅
  | invalidInteger _ => ∅

/-- Where the error is. -/
def location (e : ParseError) : Location := e.token.location

/-- What is wrong. -/
def message : ParseError → Text
  | unexpectedEnd _ e =>
    if e.isEmpty then "reached unexpected end of file"
    else "reached unexpected end of file, expected " ++ e
  | unexpectedToken t e => "unexpected token " ++ t.text ++ ", expected " ++ e
  | invalidInteger t => "invalid integer literal " ++ t.value
  | unknownToken t => "unknown token " ++ t.text

/-- The full wording of an error. -/
def text (e : ParseError) : Text := e.location.text ++ " parse error: " ++ e.message

end ParseError

/-- An error, and the tokens at which reading can be taken up again. -/
structure ParseFailure where
  /-- What is wrong. -/
  error : ParseError
  /-- The tokens that were not consumed. -/
  rest : List Token
deriving DecidableEq

/-! ## Operands -/

/-- What stands in front of the expression of a declaration or an assignment. -/
inductive Header where
  /-- The keyword, a name, perhaps a type, and `=`. -/
  | declaration (name : Text) (type : Option TypeName) (location : Location)
  /-- A name and `=`. -/
  | assignment (name : Text) (location : Location)
deriving DecidableEq

/-- The operand that a header makes of its expression. -/
def Header.close : Header → Node → Node
  | declaration name type l, expr => .declaration name type expr l
  | assignment name l, expr => .assignment name expr l

/-- The beginning of an operand. -/
inductive Opening where
  /-- A complete operand. -/
  | operand (node : Node)
  /-- A header, whose expression is still to come. -/
  | header (h : Header)
deriving DecidableEq

/-- The next token, which must be of a given kind.  A list without an end marker ends at
`stop`. -/
def expect (stop : Location) (kind : TokenKind) (expected : Text) :
    List Token → Except ParseFailure (Token × List Token)
  | [] => .error ⟨.unexpectedEnd (Token.endAt stop) expected, []⟩
  | t :: rest =>
    if t.kind = .endOfFile then .error ⟨.unexpectedEnd t expected, t :: rest⟩
    else if t.kind = kind then .ok (t, rest)
    else .error ⟨.unexpectedToken t expected, t :: rest⟩

/-- The type of a declaration, if a colon announces one. -/
def annotatedType (stop : Location) :
    List Token → Except ParseFailure (Option TypeName × List Token)
  | [] => .ok (none, [])
  | t :: rest =>
    if t.kind = .colon then do
      let (name, rest) ← expect stop .identifier "type identifier" rest
      return (some ⟨name.value, name.location⟩, rest)
    else .ok (none, t :: rest)

/-- The header of the declaration whose keyword stands at `l`. -/
def declarationHeader (stop l : Location) (tokens : List Token) :
    Except ParseFailure (Header × List Token) := do
  let (name, rest) ← expect stop .identifier "identifier" tokens
  let (type, rest) ← annotatedType stop rest
  let (_, rest) ← expect stop .equals "'='" rest
  return (.declaration name.value type l, rest)

/-- A name at the beginning of an operand: it is assigned when `=` follows, and used
otherwise. -/
def nameOpening (name : Token) : List Token → Opening × List Token
  | [] => (.operand (.reference name.value name.location), [])
  | t :: rest =>
    if t.kind = .equals then (.header (.assignment name.value name.location), rest)
    else (.operand (.reference name.value name.location), t :: rest)

/-- The beginning of an operand, and the tokens behind it. -/
def opening (g : Grammar) (stop : Location) :
    List Token → Except ParseFailure (Opening × List Token)
  | [] => .error ⟨.unexpectedEnd (Token.endAt stop) "expression", []⟩
  | t :: rest =>
    match t.kind with
    | .endOfFile => .error ⟨.unexpectedEnd t "expression", t :: rest⟩
    | .integer =>
      match t.value.word? with
      | some n => .ok (.operand (.literal (.integer n) t.location), rest)
      | none => .error ⟨.invalidInteger t, rest⟩
    | .string => .ok (.operand (.literal (.string t.value) t.location), rest)
    | .letKeyword => do
      let (h, rest) ← declarationHeader stop t.location rest
      return (.header h, rest)
    | .identifier =>
      if g.assignments then .ok (nameOpening t rest)
      else .error ⟨.unknownToken t, t :: rest⟩
    | _ => .error ⟨.unknownToken t, t :: rest⟩

/-! ### Every step consumes tokens -/

theorem expect_length {stop : Location} {kind : TokenKind} {expected : Text}
    {tokens rest : List Token} {t : Token}
    (h : expect stop kind expected tokens = .ok (t, rest)) : rest.length < tokens.length := by
  cases tokens with
  | nil => simp [expect] at h
  | cons u us =>
    simp only [expect] at h
    split at h
    · cases h
    · split at h
      · cases h; simp
      · cases h

theorem annotatedType_length {stop : Location} {tokens rest : List Token}
    {type : Option TypeName} (h : annotatedType stop tokens = .ok (type, rest)) :
    rest.length ≤ tokens.length := by
  cases tokens with
  | nil => cases h; simp
  | cons u us =>
    simp only [annotatedType] at h
    split at h
    · cases he : expect stop .identifier "type identifier" us with
      | error e => rw [he] at h; cases h
      | ok r =>
        rw [he] at h
        cases h
        have := expect_length he
        simp only [List.length_cons]
        omega
    · cases h; simp

theorem declarationHeader_length {stop l : Location} {tokens rest : List Token} {hd : Header}
    (h : declarationHeader stop l tokens = .ok (hd, rest)) : rest.length < tokens.length := by
  simp only [declarationHeader] at h
  cases h₁ : expect stop .identifier "identifier" tokens with
  | error e => rw [h₁] at h; cases h
  | ok r₁ =>
    rw [h₁] at h
    simp only [bind, Except.bind] at h
    cases h₂ : annotatedType stop r₁.2 with
    | error e => rw [h₂] at h; cases h
    | ok r₂ =>
      rw [h₂] at h
      simp only at h
      cases h₃ : expect stop .equals "'='" r₂.2 with
      | error e => rw [h₃] at h; cases h
      | ok r₃ =>
        rw [h₃] at h
        cases h
        have := expect_length h₁
        have := annotatedType_length h₂
        have := expect_length h₃
        omega

theorem nameOpening_length (name : Token) (tokens : List Token) :
    (nameOpening name tokens).2.length ≤ tokens.length := by
  cases tokens with
  | nil => simp [nameOpening]
  | cons t rest => simp only [nameOpening]; split <;> simp

theorem opening_length {g : Grammar} {stop : Location} {tokens rest : List Token} {o : Opening}
    (h : opening g stop tokens = .ok (o, rest)) : rest.length < tokens.length := by
  cases tokens with
  | nil => cases h
  | cons t ts =>
    simp only [opening] at h
    split at h
    · cases h
    · split at h
      · cases h; simp
      · cases h
    · cases h; simp
    · cases hd : declarationHeader stop t.location ts with
      | error e => rw [hd] at h; cases h
      | ok r =>
        rw [hd] at h
        cases h
        have := declarationHeader_length hd
        simp only [List.length_cons]
        omega
    · split at h
      · have := nameOpening_length t ts
        cases hn : nameOpening t ts with
        | mk o' r =>
          rw [hn] at h this
          cases h
          exact Nat.lt_succ_of_le this
      · cases h
    · cases h

/-! ## Expressions -/

/-- The binary operator of a token, if it is one. -/
def Token.operator? (t : Token) : Option Operator :=
  match t.kind with
  | .plus => some .plus
  | .minus => some .minus
  | .asterisk => some .times
  | .slash => some .divide
  | _ => none

/-- How tightly an operator binds. -/
def Operator.precedence : Operator → Nat
  | plus | minus => 1
  | times | divide => 2
  | unknown _ => 0

/-- A tree that has been read, and the tokens behind it. -/
structure Reading (bound : Nat) where
  /-- The tree. -/
  node : Node
  /-- The tokens behind it. -/
  rest : List Token
  /-- There are fewer of them than the bound. -/
  rest_lt : rest.length < bound

namespace Reading

/-- The tree and the tokens behind it. -/
def pair {bound : Nat} (r : Reading bound) : Node × List Token := (r.node, r.rest)

mutual

/-- An expression.  Without precedence, what stands behind its first operator is an expression
again, so chains nest to the right. -/
def expr (g : Grammar) (stop : Location) (tokens : List Token) :
    Except ParseFailure (Reading tokens.length) :=
  if g.precedence then climb g stop 1 tokens
  else
    match operand g stop tokens with
    | .error e => .error e
    | .ok ⟨lhs, [], h⟩ => .ok ⟨lhs, [], h⟩
    | .ok ⟨lhs, t :: rest, h⟩ =>
      match t.operator? with
      | none => .ok ⟨lhs, t :: rest, h⟩
      | some op =>
        match expr g stop rest with
        | .error e => .error e
        | .ok ⟨rhs, rest', h'⟩ =>
          .ok ⟨.binary lhs op rhs t.location, rest', by rw [List.length_cons] at h; omega⟩
termination_by 3 * tokens.length + 2
decreasing_by
  · omega
  · omega
  · rw [List.length_cons] at h
    omega

/-- An operand, and behind it the operators that bind at least as tightly as `least`. -/
def climb (g : Grammar) (stop : Location) (least : Nat) (tokens : List Token) :
    Except ParseFailure (Reading tokens.length) :=
  match operand g stop tokens with
  | .error e => .error e
  | .ok ⟨lhs, rest, h⟩ =>
    match climbFrom g stop least lhs rest with
    | .error e => .error e
    | .ok ⟨n, rest', h'⟩ => .ok ⟨n, rest', by omega⟩
termination_by 3 * tokens.length + 1
decreasing_by
  · omega
  · omega

/-- The loop of a climb: what has been read so far becomes the left operand of the next operator,
up to one that binds less tightly than `least`. -/
def climbFrom (g : Grammar) (stop : Location) (least : Nat) (lhs : Node) (tokens : List Token) :
    Except ParseFailure (Reading (tokens.length + 1)) :=
  match tokens with
  | [] => .ok ⟨lhs, [], Nat.lt_succ_self _⟩
  | t :: rest =>
    match t.operator? with
    | none => .ok ⟨lhs, t :: rest, Nat.lt_succ_self _⟩
    | some op =>
      if op.precedence < least then .ok ⟨lhs, t :: rest, Nat.lt_succ_self _⟩
      else
        match climb g stop (op.precedence + 1) rest with
        | .error e => .error e
        | .ok ⟨rhs, rest', h'⟩ =>
          match climbFrom g stop least (.binary lhs op rhs t.location) rest' with
          | .error e => .error e
          | .ok ⟨n, rest'', h''⟩ => .ok ⟨n, rest'', by rw [List.length_cons]; omega⟩
termination_by 3 * tokens.length
decreasing_by
  · rw [List.length_cons]
    omega
  · rw [List.length_cons]
    omega

/-- An operand.  The expression behind a header is part of it. -/
def operand (g : Grammar) (stop : Location) (tokens : List Token) :
    Except ParseFailure (Reading tokens.length) :=
  match h : opening g stop tokens with
  | .error e => .error e
  | .ok (.operand n, rest) => .ok ⟨n, rest, opening_length h⟩
  | .ok (.header hd, body) =>
    match expr g stop body with
    | .error e => .error e
    | .ok ⟨n, rest, h'⟩ => .ok ⟨hd.close n, rest, Nat.lt_trans h' (opening_length h)⟩
termination_by 3 * tokens.length
decreasing_by
  have := opening_length h
  omega

end

end Reading

/-- The expression at the beginning of the tokens, and the tokens behind it. -/
def expr (g : Grammar) (stop : Location) (tokens : List Token) :
    Except ParseFailure (Node × List Token) :=
  (Reading.expr g stop tokens).map Reading.pair

/-- The same for a climb with a least precedence. -/
def climb (g : Grammar) (stop : Location) (least : Nat) (tokens : List Token) :
    Except ParseFailure (Node × List Token) :=
  (Reading.climb g stop least tokens).map Reading.pair

/-- The same for the loop of a climb, behind what has been read so far. -/
def climbFrom (g : Grammar) (stop : Location) (least : Nat) (lhs : Node) (tokens : List Token) :
    Except ParseFailure (Node × List Token) :=
  (Reading.climbFrom g stop least lhs tokens).map Reading.pair

/-- The same for an operand. -/
def operand (g : Grammar) (stop : Location) (tokens : List Token) :
    Except ParseFailure (Node × List Token) :=
  (Reading.operand g stop tokens).map Reading.pair

section Equations

variable {g : Grammar} {stop : Location}

theorem expr_of_precedence (h : g.precedence = true) (tokens : List Token) :
    expr g stop tokens = climb g stop 1 tokens := by
  rw [expr, Reading.expr, if_pos h, climb]

theorem expr_of_not_precedence (h : g.precedence = false) (tokens : List Token) :
    expr g stop tokens = operand g stop tokens >>= fun r =>
      match r.2 with
      | [] => .ok r
      | t :: rest =>
        match t.operator? with
        | none => .ok r
        | some op => (expr g stop rest).map fun q => (.binary r.1 op q.1 t.location, q.2) := by
  rw [expr, Reading.expr, if_neg (by simp [h]), operand]
  rcases Reading.operand g stop tokens with e | ⟨lhs, _ | ⟨t, rest⟩, hlt⟩
  · rfl
  · rfl
  · simp only [bind, Except.bind, Except.map, Reading.pair]
    rcases t.operator? with _ | op
    · rfl
    · simp only [expr]
      rcases Reading.expr g stop rest with e | r <;> rfl

theorem climb_eq (least : Nat) (tokens : List Token) :
    climb g stop least tokens
      = operand g stop tokens >>= fun r => climbFrom g stop least r.1 r.2 := by
  rw [climb, Reading.climb, operand]
  rcases Reading.operand g stop tokens with e | ⟨lhs, rest, hlt⟩
  · rfl
  · simp only [bind, Except.bind, Except.map, Reading.pair, climbFrom]
    rcases Reading.climbFrom g stop least lhs rest with e | r <;> rfl

@[simp] theorem climbFrom_nil (least : Nat) (lhs : Node) :
    climbFrom g stop least lhs [] = .ok (lhs, []) := by
  rw [climbFrom, Reading.climbFrom]
  rfl

theorem climbFrom_cons (least : Nat) (lhs : Node) (t : Token) (rest : List Token) :
    climbFrom g stop least lhs (t :: rest) =
      match t.operator? with
      | none => .ok (lhs, t :: rest)
      | some op =>
        if op.precedence < least then .ok (lhs, t :: rest)
        else climb g stop (op.precedence + 1) rest >>= fun r =>
          climbFrom g stop least (.binary lhs op r.1 t.location) r.2 := by
  rw [climbFrom, Reading.climbFrom]
  rcases t.operator? with _ | op
  · rfl
  · simp only
    split
    · rfl
    · simp only [bind, Except.bind, Except.map, Reading.pair, climb, climbFrom]
      rcases Reading.climb g stop (op.precedence + 1) rest with e | r
      · rfl
      · simp only
        rcases Reading.climbFrom g stop least (.binary lhs op r.node t.location) r.rest with e | q
          <;> rfl

theorem operand_eq (tokens : List Token) :
    operand g stop tokens = opening g stop tokens >>= fun r =>
      match r.1 with
      | .operand n => .ok (n, r.2)
      | .header hd => (expr g stop r.2).map fun q => (hd.close q.1, q.2) := by
  rw [operand, Reading.operand]
  split
  · next e h =>
    simp only [h]
    rfl
  · next n rest h =>
    simp only [h]
    rfl
  · next hd body h =>
    simp only [h, bind, Except.bind, Except.map, Reading.pair, expr]
    rcases Reading.expr g stop body with e | r <;> rfl

/-! ### Every expression consumes tokens -/

theorem Reading.rest_lt_of_pair {bound : Nat} {x : Except ParseFailure (Reading bound)} {n : Node}
    {rest : List Token} (h : x.map pair = .ok (n, rest)) : rest.length < bound := by
  rcases x with e | r
  · cases h
  · cases h
    exact r.rest_lt

theorem expr_length {tokens rest : List Token} {n : Node}
    (h : expr g stop tokens = .ok (n, rest)) : rest.length < tokens.length :=
  Reading.rest_lt_of_pair h

theorem operand_length {tokens rest : List Token} {n : Node}
    (h : operand g stop tokens = .ok (n, rest)) : rest.length < tokens.length :=
  Reading.rest_lt_of_pair h

theorem climb_length {least : Nat} {tokens rest : List Token} {n : Node}
    (h : climb g stop least tokens = .ok (n, rest)) : rest.length < tokens.length :=
  Reading.rest_lt_of_pair h

end Equations

/-! ## Scripts -/

/-- The expressions up to the end of the script, and the tokens from there on. -/
def expressions (g : Grammar) (stop : Location) (tokens : List Token) :
    Except ParseFailure (List Node × List Token) :=
  match tokens with
  | [] => .ok ([], [])
  | t :: ts =>
    if t.kind = .endOfFile then .ok ([], t :: ts)
    else
      match _h : expr g stop (t :: ts) with
      | .error e => .error e
      | .ok (n, rest) =>
        match expressions g stop rest with
        | .error e => .error e
        | .ok (nodes, rest') => .ok (n :: nodes, rest')
termination_by tokens.length
decreasing_by exact expr_length _h

/-! ## The parser -/

/-- Tokens that are being read. -/
structure Parser where
  /-- What is read, and how it groups. -/
  grammar : Grammar
  /-- Where the tokens end if they have no end marker. -/
  stop : Location
  /-- The tokens, up to where they have been consumed. -/
  cursor : Cursor Token

namespace Parser

/-- The tokens not yet consumed. -/
def rest (p : Parser) : List Token := p.cursor.rest

/-- The place of the last token of a list. -/
def lastLocation (tokens : List Token) : Location :=
  (tokens.getLast?.map Token.location).getD Location.nowhere

/-- The parser before the first token of a list. -/
def ofTokens (g : Grammar) (tokens : List Token) : Parser :=
  ⟨g, lastLocation tokens, Cursor.ofList tokens⟩

/-- Read on to the end of the script or to the next error. -/
def run (p : Parser) : Except ParseError (List Node) × Parser :=
  match expressions p.grammar p.stop p.rest with
  | .ok (nodes, rest) => (.ok nodes, { p with cursor := p.cursor.moveTo rest })
  | .error e => (.error e.error, { p with cursor := p.cursor.moveTo e.rest })

end Parser

/-- The expressions that a list of tokens writes, up to the end of the script. -/
def parse (g : Grammar) (tokens : List Token) : Except ParseError (List Node) :=
  (Parser.ofTokens g tokens).run.1

end LetScript
