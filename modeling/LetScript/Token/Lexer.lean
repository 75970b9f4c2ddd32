import LetScript.Cursor
import LetScript.Token.Basic
import LetScript.Text.Blank
import LetScript.Text.Letter

/-!
# Reading a script into tokens

The script is read from the left, character by character.  White space separates lexemes, and so
does a comment, which is a line whose first character is `#`.  Every other character begins a
lexeme: a maximal run of digits, a maximal word of letters and underscores, a string up to the
next quote, or a single operator character.  Where none of these fits, reading stops behind the
fault; it can be taken up again from there.
-/

namespace LetScript

/-! ## Lexemes -/

/-- Whether a character is a decimal digit. -/
def isDigit (c : Char) : Bool := '0' ≤ c && c ≤ '9'

/-- Whether a character can stand in a word. -/
def isWordChar (c : Char) : Bool := isLetter c || c = '_'

/-- The kind of a word: `let` is the only keyword. -/
def wordKind (word : List Char) : TokenKind :=
  if word = ['l', 'e', 't'] then .letKeyword else .identifier

/-- The kind of an operator character. -/
def operatorKind? : Char → Option TokenKind
  | '+' => some .plus
  | '-' => some .minus
  | '*' => some .asterisk
  | '/' => some .slash
  | ':' => some .colon
  | '=' => some .equals
  | _ => none

/-- A lexeme at the beginning of some characters. -/
structure Lexeme where
  /-- The kind of its token; a fault has the kind `error`. -/
  kind : TokenKind
  /-- The value of its token; for a fault, the message. -/
  value : Text
  /-- The characters it takes. -/
  spelling : List Char
  /-- The characters behind it. -/
  rest : List Char

/-- The lexeme that begins with `c`, where `c` is no white space and begins no comment. -/
def lexeme (c : Char) (rest : List Char) : Lexeme :=
  if isDigit c then
    let digits := c :: rest.takeWhile isDigit
    ⟨.integer, Text.ofChars digits, digits, rest.dropWhile isDigit⟩
  else if c = '"' then
    let body := rest.takeWhile (· ≠ '"')
    match rest.dropWhile (· ≠ '"') with
    | quote :: rest' => ⟨.string, Text.ofChars body, c :: body ++ [quote], rest'⟩
    | [] => ⟨.error, "unclosed string: " ++ Text.ofChars body, c :: body, []⟩
  else if isWordChar c then
    let word := c :: rest.takeWhile isWordChar
    ⟨wordKind word, Text.ofChars word, word, rest.dropWhile isWordChar⟩
  else
    match operatorKind? c with
    | some kind => ⟨kind, Text.ofChars [c], [c], rest⟩
    | none => ⟨.error, "invalid symbol '" ++ Text.ofChars [c] ++ "'", [c], rest⟩

private theorem length_dropWhile_le (p : Char → Bool) (cs : List Char) :
    (cs.dropWhile p).length ≤ cs.length :=
  (List.dropWhile_sublist p).length_le

/-- A lexeme takes at least its first character. -/
theorem lexeme_rest_length_le (c : Char) (rest : List Char) :
    (lexeme c rest).rest.length ≤ rest.length := by
  unfold lexeme
  split
  · exact length_dropWhile_le _ _
  · split
    · have h := length_dropWhile_le (· ≠ '"') rest
      revert h
      cases hd : rest.dropWhile (· ≠ '"') with
      | nil => simp
      | cons q r => simp; omega
    · split
      · exact length_dropWhile_le _ _
      · split <;> simp

/-! ## Scanning -/

/-- Why a script could not be read into tokens. -/
structure LexError where
  /-- Where the fault begins. -/
  location : Location
  /-- What is wrong there. -/
  message : Text
deriving DecidableEq

/-- The full wording of a fault. -/
def LexError.text (e : LexError) : Text := e.location.text ++ " lex error: " ++ e.message

/-- What one scan of some characters yields. -/
structure Scan where
  /-- The tokens read; the last one is the end of the script or a fault. -/
  tokens : List Token
  /-- The fault at which the scan stopped, if it did. -/
  error : Option LexError
  /-- The place behind the last character read. -/
  location : Location
  /-- The characters not read. -/
  rest : List Char

/-- Scan the characters that begin at `loc` up to their end or to the first fault. -/
def scan (loc : Location) : List Char → Scan
  | [] => ⟨[Token.endAt loc], none, loc, []⟩
  | c :: rest =>
    if c = '#' ∧ loc.column = 1 then
      scan (loc.afterAll (c :: rest.takeWhile (· ≠ '\n'))) (rest.dropWhile (· ≠ '\n'))
    else if isBlank c then
      scan (loc.after c) rest
    else
      let x := lexeme c rest
      let token : Token := ⟨x.kind, x.value, loc⟩
      if x.kind = .error then
        ⟨[token], some ⟨loc, x.value⟩, loc.afterAll x.spelling, x.rest⟩
      else
        let s := scan (loc.afterAll x.spelling) x.rest
        { s with tokens := token :: s.tokens }
termination_by cs => cs.length
decreasing_by
  · exact Nat.lt_succ_of_le (length_dropWhile_le _ rest)
  · exact Nat.lt_succ_self _
  · exact Nat.lt_succ_of_le (lexeme_rest_length_le c rest)

/-! ## The lexer -/

/-- A script that is being read. -/
structure Lexer where
  /-- Its characters, up to where they have been read. -/
  cursor : Cursor Char
  /-- The place of the next one. -/
  location : Location
  /-- All tokens read so far, those of faults included. -/
  tokens : List Token

namespace Lexer

/-- The characters not yet read. -/
def rest (l : Lexer) : List Char := l.cursor.rest

/-- The lexer before the first character of a script. -/
def ofText (script : Text) : Lexer := ⟨Cursor.ofList script.chars, Location.start, []⟩

/-- Read on to the end or to the next fault.  Without a fault the answer is the list of all
tokens read so far. -/
def run (l : Lexer) : Except LexError (List Token) × Lexer :=
  let s := scan l.location l.rest
  let tokens := l.tokens ++ s.tokens
  (match s.error with
    | some e => .error e
    | none => .ok tokens,
  ⟨l.cursor.moveTo s.rest, s.location, tokens⟩)

end Lexer

/-- The tokens of a script, up to its end. -/
def tokenize (script : Text) : Except LexError (List Token) := (Lexer.ofText script).run.1

end LetScript
