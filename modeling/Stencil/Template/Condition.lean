/-!
# Conditions

A condition compares the value at a path with a literal.
-/

set_option autoImplicit false

namespace Stencil

/-- A comparison operator. -/
inductive Operator
  | less
  | greater
  | atMost
  | atLeast
  | equals
  deriving DecidableEq, Repr

namespace Operator

/-- The text of an operator. -/
def text : Operator → String
  | .less => "<"
  | .greater => ">"
  | .atMost => "<="
  | .atLeast => ">="
  | .equals => "=="

/-- Whether an operator holds of two things that stand in the given order. -/
def isMetBy : Operator → Ordering → Bool
  | .less, ordering => ordering == .lt
  | .greater, ordering => ordering == .gt
  | .atMost, ordering => ordering != .gt
  | .atLeast, ordering => ordering != .lt
  | .equals, ordering => ordering == .eq

end Operator

/-- The comparison of the value at a path with a literal. -/
structure Condition where
  path : String
  operator : Operator
  literal : String
  deriving DecidableEq, Repr

/-- The text of a condition, the literal without quotes. -/
def Condition.text (condition : Condition) : String :=
  condition.path ++ " " ++ condition.operator.text ++ " " ++ condition.literal

end Stencil
