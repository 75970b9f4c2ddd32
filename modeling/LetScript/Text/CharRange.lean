/-!
# Classes of characters given by ranges

A class of characters beyond ASCII is a table of ranges of code points in increasing order.
-/

namespace LetScript

/-- A range of code points, both ends included. -/
abbrev CharRange := Nat × Nat

namespace CharRange

/-- Whether a code point lies in a range. -/
def holds (r : CharRange) (n : Nat) : Bool := r.1 ≤ n && n ≤ r.2

/-- Whether a code point lies in one of the ranges. -/
def anyHolds (rs : List CharRange) (n : Nat) : Bool := rs.any (holds · n)

end CharRange

end LetScript
