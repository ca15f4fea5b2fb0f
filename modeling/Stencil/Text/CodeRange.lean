/-!
# Ranges of code points

A property of characters is given as a list of closed ranges of the code points
that have it.
-/

set_option autoImplicit false

namespace Stencil.Text

/-- A closed range of code points. -/
structure CodeRange where
  first : Nat
  last : Nat
  deriving DecidableEq, Repr

/-- Whether a code point lies in a range. -/
def CodeRange.covers (range : CodeRange) (code : Nat) : Bool :=
  range.first ≤ code && code ≤ range.last

/-- Whether a code point lies in one of several ranges. -/
def covered (ranges : List CodeRange) (code : Nat) : Bool :=
  ranges.any (·.covers code)

end Stencil.Text
