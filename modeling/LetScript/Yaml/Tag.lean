import LetScript.Text.Utf8
import LetScript.Yaml.Number

/-!
# Tags of scalars

A tag says what a scalar is.  A plain scalar without a tag gets one by how it is written: null,
a truth value, a number, a date, or else a string.
-/

namespace LetScript.Yaml

/-- What a scalar stands for. -/
inductive Meaning where
  /-- Nothing. -/
  | null
  /-- A truth value. -/
  | bool (b : Bool)
  /-- An integer. -/
  | integer
  /-- A fraction. -/
  | float
  /-- A date. -/
  | timestamp
  /-- A text. -/
  | text (t : Text)
deriving DecidableEq

namespace Tag

/-- The tag of strings. -/
def string : Text := "!!str"

/-- The tag of sequences. -/
def sequence : Text := "!!seq"

/-- The tag of mappings. -/
def mapping : Text := "!!map"

/-- The tag of the key under which another mapping is taken over. -/
def merge : Text := "!!merge"

/-- The tag of bytes in base 64. -/
def binary : Text := "!!binary"

/-- The beginning of the full form of the standard tags. -/
def standard : Text := "tag:yaml.org,2002:"

/-- The short form of a tag. -/
def short (t : Text) : Text :=
  match t.dropStart? standard with
  | some rest => "!!" ++ rest
  | none => t

end Tag

/-- The tag of a meaning. -/
def Meaning.tag : Meaning → Text
  | null => "!!null"
  | bool _ => "!!bool"
  | integer => "!!int"
  | float => "!!float"
  | timestamp => "!!timestamp"
  | text _ => Tag.string

/-- The words with a meaning of their own. -/
def wordMeaning? (cs : List Char) : Option Meaning :=
  let w := String.ofList cs
  if ["", "~", "null", "Null", "NULL"].contains w then some .null
  else if ["true", "True", "TRUE"].contains w then some (.bool true)
  else if ["false", "False", "FALSE"].contains w then some (.bool false)
  else if [".nan", ".NaN", ".NAN", ".inf", ".Inf", ".INF", "+.inf", "+.Inf", "+.INF", "-.inf",
      "-.Inf", "-.INF"].contains w then some .float
  else none

/-- What the characters of a plain scalar stand for.  Dates are only recognised on request. -/
def plainMeaning (dates : Bool) (cs : List Char) : Meaning :=
  let text : Meaning := .text (Text.ofChars cs)
  match wordMeaning? cs with
  | some m => m
  | none =>
    let c := cs.headD ' '
    let digits := cs.filter (· ≠ '_')
    if c = '.' then
      if underscoresSeparate false cs && isFloat digits then .float else text
    else if c.isDigit || c = '+' || c = '-' then
      if dates && isTimestamp cs then .timestamp
      else if isInteger digits then .integer
      else if isFloat digits then .float
      else text
    else text

/-! ## Base 64 -/

/-- The value of a digit in base 64. -/
def base64Value? (c : Char) : Option Nat :=
  if c.isUpper then some (c.toNat - 'A'.toNat)
  else if c.isLower then some (c.toNat - 'a'.toNat + 26)
  else if c.isDigit then some (c.toNat - '0'.toNat + 52)
  else if c = '+' then some 62
  else if c = '/' then some 63
  else none

/-- The bytes that some characters write in base 64, in groups of four with `=` as filling. -/
def base64Bytes? : List Char → Option (List UInt8)
  | [] => some []
  | [a, b, '=', '='] => do
    let n := (← base64Value? a) * 64 + (← base64Value? b)
    return [UInt8.ofNat (n / 16)]
  | [a, b, c, '='] => do
    let n := ((← base64Value? a) * 64 + (← base64Value? b)) * 64 + (← base64Value? c)
    return [UInt8.ofNat (n / 1024), UInt8.ofNat (n / 4 % 256)]
  | a :: b :: c :: d :: rest => do
    let n := (((← base64Value? a) * 64 + (← base64Value? b)) * 64 + (← base64Value? c)) * 64
      + (← base64Value? d)
    let more ← base64Bytes? rest
    return UInt8.ofNat (n / 65536) :: UInt8.ofNat (n / 256 % 256) :: UInt8.ofNat (n % 256) :: more
  | _ => none

/-- What a text stands for under a tag; none when it cannot stand under it.  A tag that is not
standard leaves the text as it is. -/
def meaning? (tag value : Text) : Option Meaning :=
  if tag = Tag.string then some (.text value)
  else if tag = Tag.binary then
    let cs := value.chars.filter fun c => c ≠ '\n' && c ≠ '\r'
    (base64Bytes? cs).map fun bytes => .text ⟨bytes⟩
  else if [Meaning.null.tag, (Meaning.bool true).tag, Meaning.integer.tag, Meaning.float.tag,
      Meaning.timestamp.tag].contains tag then
    let m := plainMeaning (tag = Meaning.timestamp.tag) value.chars
    if m.tag = tag then some m
    else if tag = Meaning.float.tag && m = .integer then some .float
    else none
  else some (.text value)

end LetScript.Yaml
