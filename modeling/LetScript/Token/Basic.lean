import LetScript.Location
import LetScript.Text.Quoted

/-!
# Tokens

A token is a kind, a value and the place where it begins.  The kinds are numbered from zero in
the order given here; a kind with any other number has no name of its own.
-/

namespace LetScript

/-- The kind of a token. -/
inductive TokenKind where
  /-- What could not be read; the value is the message. -/
  | error
  /-- The end of the script. -/
  | endOfFile
  /-- A run of decimal digits. -/
  | integer
  /-- A quoted string; the value lacks the quotes. -/
  | string
  /-- A word that is no keyword. -/
  | identifier
  /-- The keyword of a declaration. -/
  | letKeyword
  /-- The sign `+`. -/
  | plus
  /-- The sign `-`. -/
  | minus
  /-- The sign `*`. -/
  | asterisk
  /-- The sign `/`. -/
  | slash
  /-- The sign `:`. -/
  | colon
  /-- The sign `=`. -/
  | equals
  /-- A kind that the language does not use. -/
  | other (number : Nat)
deriving DecidableEq

namespace TokenKind

/-- The kinds that have a name, in the order of their numbers. -/
def named : List TokenKind :=
  [error, endOfFile, integer, string, identifier, letKeyword, plus, minus, asterisk, slash, colon,
    equals]

/-- The kind with a given number. -/
def ofNumber (n : Nat) : TokenKind := named.getD n (other n)

/-- The name of a kind. -/
def name : TokenKind → Text
  | error => "Error"
  | endOfFile => "EOF"
  | integer => "Integer"
  | string => "String"
  | identifier => "Identifier"
  | letKeyword => "Let"
  | plus => "Plus"
  | minus => "Minus"
  | asterisk => "Asterisk"
  | slash => "Slash"
  | colon => "Colon"
  | equals => "Equals"
  | other n => "TokenType(" ++ Text.ofNat n ++ ")"

/-- The kind with a given name, if one has it. -/
def ofName? (n : Text) : Option TokenKind := named.find? (·.name = n)

end TokenKind

/-- A token of a script. -/
structure Token where
  /-- What it is. -/
  kind : TokenKind
  /-- What was written, for a string without its quotes. -/
  value : Text
  /-- Where it begins. -/
  location : Location
deriving DecidableEq

namespace Token

/-- The end of the script at a place. -/
def endAt (l : Location) : Token := ⟨.endOfFile, ∅, l⟩

/-- A token as shown in messages: kind, quoted value and place; the end of the script has no
value to show. -/
def text (t : Token) : Text :=
  if t.kind = .endOfFile then t.kind.name ++ " at " ++ t.location.text
  else t.kind.name ++ " " ++ t.value.quoted ++ " at " ++ t.location.text

end Token

end LetScript
