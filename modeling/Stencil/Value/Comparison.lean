import Stencil.Text.Caseless
import Stencil.Value.Basic

/-!
# Comparing a value with a literal

A condition compares a value with the text of a literal.  The kind of the value
decides how the literal is read: integers, floating-point numbers and truth values
have a text form each, and a string is compared with the literal itself, by the
order of code points.  The other kinds have no order.
-/

set_option autoImplicit false

namespace Stencil

open Numeric (Binary Binary64 readInt64)

/-- How a value compares with a literal. -/
inductive Comparison
  /-- The literal could be read, and the value stands to it like this. -/
  | ordered (ordering : Ordering)
  /-- The value has no place in an order. -/
  | unordered
  /-- The literal is no text of a value of this kind. -/
  | inconvertible (kind : Kind)
  deriving DecidableEq, Repr

/-- The truth value a literal denotes. -/
def readBool (literal : List Char) : Option Bool :=
  if Text.alike literal ['t', 'r', 'u', 'e'] then some true
  else if Text.alike literal ['f', 'a', 'l', 's', 'e'] then some false
  else none

/-- How a value compares with a literal, read as the kind of the value asks for. -/
def Value.compareWith (value : Value) (literal : String) : Comparison :=
  match value with
  | .int left =>
    match readInt64 literal.toList with
    | some right => .ordered (compare left.toInt right.toInt)
    | none => .inconvertible .int
  | .float left =>
    match (Binary.read literal.toList : Option Binary64) with
    | some right =>
      match left.compare? right with
      | some ordering => .ordered ordering
      | none => .unordered
    | none => .inconvertible .float
  | .bool left =>
    match readBool literal.toList with
    | some right => .ordered (compare left right)
    | none => .inconvertible .bool
  | .string left => .ordered (compare left literal)
  | _ => .unordered

end Stencil
