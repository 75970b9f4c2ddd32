import LetScript.Node.Basic
import LetScript.Text.Quoted

/-!
# Values, and why a run can fail

A run yields numbers and strings.  Numbers are unsigned, have 32 bits and wrap around.
-/

namespace LetScript

/-- The result of evaluating an expression. -/
inductive Value where
  /-- A number. -/
  | integer (n : UInt32)
  /-- A string. -/
  | string (s : Text)
  /-- No value; no expression evaluates to it. -/
  | none
deriving DecidableEq

/-- How a value is shown. -/
def Value.text : Value → Text
  | integer n => "Integer(" ++ Text.ofNat n.toNat ++ ")"
  | string s => "String(" ++ s.quoted ++ ")"
  | none => "None"

/-- Why a run fails. -/
inductive Fault where
  /-- The name is not bound. -/
  | unknownVariable (name : Text)
  /-- Binary operations are not evaluated. -/
  | uninterpretable
  /-- The values cannot be added. -/
  | invalidOperands (left right : Value)
  /-- The operator is not evaluated. -/
  | unsupportedOperator (op : Operator)
deriving DecidableEq

/-- The wording of a fault. -/
def Fault.text : Fault → Text
  | unknownVariable n => "unknown variable: " ++ n
  | uninterpretable => "unable to interpret node: *caoi.BinaryOperation"
  | invalidOperands v w =>
    "invalid operands: unable to add " ++ v.text ++ " and " ++ w.text
  | unsupportedOperator op => "unsupported operator: " ++ op.symbol

/-- The sum of two numbers, modulo 2 ^ 32; nothing else can be added. -/
def Value.add : Value → Value → Except Fault Value
  | integer m, integer n => .ok (integer (m + n))
  | v, w => .error (.invalidOperands v w)

end LetScript
