/-!
# Numbers and dates of plain scalars

Which plain scalars are written like numbers or like dates.  Integers have 64 bits; a leading
`0x`, `0o`, `0b` or `0` gives their base.  A number too large for double precision is none.
-/

namespace LetScript.Yaml

/-! ## Integers -/

/-- The value of a digit in bases up to 36. -/
def digitValue? (c : Char) : Option Nat :=
  if c.isDigit then some (c.toNat - '0'.toNat)
  else if c.isLower then some (c.toNat - 'a'.toNat + 10)
  else if c.isUpper then some (c.toNat - 'A'.toNat + 10)
  else none

/-- The number that some digits write in a base; no digits write zero. -/
def digitsIn (base : Nat) (digits : List Char) : Option Nat :=
  digits.foldl
    (fun n c => n.bind fun n => (digitValue? c).bind fun d =>
      if d < base then some (n * base + d) else none)
    (some 0)

/-- A natural number, whose base is shown by how it begins. -/
def natural? : List Char → Option Nat
  | [] => none
  | '0' :: c :: d :: rest =>
    match c.toLower with
    | 'b' => digitsIn 2 (d :: rest)
    | 'o' => digitsIn 8 (d :: rest)
    | 'x' => digitsIn 16 (d :: rest)
    | _ => digitsIn 8 (c :: d :: rest)
  | '0' :: rest => digitsIn 8 rest
  | digits => digitsIn 10 digits

/-- Whether a number with a sign fits into 64 bits. -/
def fitsSigned (negative : Bool) (n : Nat) : Bool :=
  if negative then n ≤ 0x8000000000000000 else n < 0x8000000000000000

/-- Whether some characters write a signed integer of 64 bits, read by `read` behind its sign. -/
def isSigned (read : List Char → Option Nat) : List Char → Bool
  | '-' :: rest => (read rest).any (fitsSigned true)
  | '+' :: rest => (read rest).any (fitsSigned false)
  | cs => (read cs).any (fitsSigned false)

/-- Whether some characters write an unsigned integer of 64 bits. -/
def isUnsigned (read : List Char → Option Nat) (cs : List Char) : Bool :=
  (read cs).any (· < UInt64.size)

/-- Digits in a base, at least one of them. -/
def someDigitsIn (base : Nat) (digits : List Char) : Option Nat :=
  if digits.isEmpty then none else digitsIn base digits

/-- Whether some characters write an integer behind `0b` or `0o`, where a sign may follow. -/
def isPrefixedInteger : List Char → Bool
  | '0' :: 'b' :: rest => isSigned (someDigitsIn 2) rest || isUnsigned (someDigitsIn 2) rest
  | '0' :: 'o' :: rest => isSigned (someDigitsIn 8) rest || isUnsigned (someDigitsIn 8) rest
  | _ => false

/-- Whether some characters, without underscores, write an integer. -/
def isInteger (cs : List Char) : Bool :=
  isSigned natural? cs || isUnsigned natural? cs || isPrefixedInteger cs

/-! ## Decimal fractions -/

/-- A decimal number: its digits, and the power of ten behind them. -/
structure Decimal where
  /-- The digits as a number. -/
  digits : Nat
  /-- The power of ten. -/
  exponent : Int

/-- The number that some digits write. -/
def decimalValue (digits : List Char) : Nat :=
  digits.foldl (fun n c => n * 10 + (c.toNat - '0'.toNat)) 0

/-- The exponent at the end of a decimal number. -/
def exponent? : List Char → Option Int
  | [] => some 0
  | e :: rest =>
    if e = 'e' || e = 'E' then
      let (negative, digits) := match rest with
        | '-' :: ds => (true, ds)
        | '+' :: ds => (false, ds)
        | ds => (false, ds)
      if digits.isEmpty || !digits.all Char.isDigit then none
      else some (if negative then -(decimalValue digits : Int) else decimalValue digits)
    else none

/-- A decimal number: digits with a point before, between or behind them, and an exponent. -/
def unsignedDecimal? (cs : List Char) : Option Decimal :=
  let whole := cs.takeWhile Char.isDigit
  let (fraction, rest, pointed) := match cs.dropWhile Char.isDigit with
    | '.' :: rest => (rest.takeWhile Char.isDigit, rest.dropWhile Char.isDigit, true)
    | rest => ([], rest, false)
  if whole.isEmpty && (!pointed || fraction.isEmpty) then none
  else (exponent? rest).map fun e => ⟨decimalValue (whole ++ fraction), e - fraction.length⟩

/-- The least number that is too great for a finite double: half a unit of its last place beyond
the greatest one. -/
def doubleBound : Nat := Nat.pow 2 1024 - Nat.pow 2 970

/-- Whether a decimal number rounds to a finite double. -/
def Decimal.isFinite (d : Decimal) : Bool :=
  if d.digits = 0 || d.exponent < 0 && (d.digits.log2 : Int) < 1000 then true
  else if d.exponent < 0 then
    d.digits < doubleBound * Nat.pow 10 (-d.exponent).toNat
  else d.exponent ≤ 310 && d.digits * Nat.pow 10 d.exponent.toNat < doubleBound

/-- Whether some characters write a decimal number that is a finite double. -/
def isFloat (cs : List Char) : Bool :=
  let cs := match cs with
    | '-' :: rest => rest
    | '+' :: rest => rest
    | _ => cs
  (unsignedDecimal? cs).any Decimal.isFinite

/-- Whether every underscore stands between two digits; `digit` says whether one comes before. -/
def underscoresSeparate (digit : Bool) : List Char → Bool
  | [] => true
  | ['_'] => false
  | '_' :: c :: rest => digit && c.isDigit && underscoresSeparate true rest
  | c :: rest => underscoresSeparate c.isDigit rest

/-! ## Dates -/

/-- A number of one or two digits, and what follows it. -/
def shortNumber? : List Char → Option (Nat × List Char)
  | a :: b :: rest =>
    if a.isDigit then
      if b.isDigit then some (decimalValue [a, b], rest) else some (decimalValue [a], b :: rest)
    else none
  | [a] => if a.isDigit then some (decimalValue [a], []) else none
  | [] => none

/-- The number of days of a month. -/
def daysIn (year month : Nat) : Nat :=
  if month = 2 then
    if year % 4 = 0 && (year % 100 ≠ 0 || year % 400 = 0) then 29 else 28
  else if month = 4 || month = 6 || month = 9 || month = 11 then 30
  else 31

/-- What follows a character, when the text begins with it. -/
def dropChar? (c : Char) : List Char → Option (List Char)
  | d :: rest => if c = d then some rest else none
  | [] => none

/-- What follows a date: a year of four digits, a month and a day. -/
def dropDate? (cs : List Char) : Option (List Char) := do
  let year := cs.takeWhile Char.isDigit
  guard (year.length = 4)
  let rest ← dropChar? '-' (cs.drop 4)
  let (month, rest) ← shortNumber? rest
  guard (1 ≤ month && month ≤ 12)
  let rest ← dropChar? '-' rest
  let (day, rest) ← shortNumber? rest
  guard (1 ≤ day && day ≤ daysIn (decimalValue year) month)
  return rest

/-- What follows a fraction of a second, if there is one. -/
def dropFraction : List Char → List Char
  | c :: d :: rest =>
    if (c = '.' || c = ',') && d.isDigit then rest.dropWhile Char.isDigit else c :: d :: rest
  | cs => cs

/-- What follows a time of day: hour, minute and second, perhaps with a fraction. -/
def dropTime? (cs : List Char) : Option (List Char) := do
  let (hour, rest) ← shortNumber? cs
  guard (hour < 24)
  let (minute, rest) ← shortNumber? (← dropChar? ':' rest)
  guard (minute < 60)
  let (second, rest) ← shortNumber? (← dropChar? ':' rest)
  guard (second < 60)
  return dropFraction rest

/-- Whether some characters are a time zone: `Z`, or a sign, hours and minutes. -/
def isZone : List Char → Bool
  | ['Z'] => true
  | [sign, a, b, ':', c, d] =>
    (sign = '+' || sign = '-') && [a, b, c, d].all Char.isDigit
      && decimalValue [a, b] ≤ 24 && decimalValue [c, d] ≤ 60
  | _ => false

/-- Whether some characters write a date, alone or with a time. -/
def isTimestamp (cs : List Char) : Bool :=
  match dropDate? cs with
  | none => false
  | some [] => true
  | some (c :: rest) =>
    if c = 'T' || c = 't' then (dropTime? rest).any isZone
    else if c = ' ' then (dropTime? (rest.dropWhile (· = ' '))).any List.isEmpty
    else false

end LetScript.Yaml
