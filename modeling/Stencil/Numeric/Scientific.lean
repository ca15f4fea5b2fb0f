import Stencil.Numeric.Shortest

/-!
# Floating-point numbers with a point or an exponent

A text that cannot be taken for that of an integer: the shortest digits of the
number, a tie going to the even ones, in positional notation with at least one
place after the point, or, for very large and very small numbers, one digit
before the point and an exponent.  Only finite numbers have such a text.

How far positional notation goes is given by the exponent of the first digit and
differs between the formats (`PositionalSpan.single`, `PositionalSpan.double`).
-/

set_option autoImplicit false

namespace Stencil.Numeric

/-- The exponents of the first digit for which a number is written in positional notation. -/
structure PositionalSpan where
  least : Int
  greatest : Int
  deriving DecidableEq, Repr

namespace PositionalSpan

/-- The span of the numbers of 32 bits. -/
def single : PositionalSpan := ⟨-6, 12⟩

/-- The span of the numbers of 64 bits. -/
def double : PositionalSpan := ⟨-5, 15⟩

/-- Whether a number is written in positional notation. -/
def contains (span : PositionalSpan) (leading : Int) : Bool :=
  span.least ≤ leading && leading ≤ span.greatest

end PositionalSpan

/-- Digits times a power of ten in positional notation with a point. -/
def pointed (digits : List Char) (exponent : Int) : List Char :=
  if 0 ≤ exponent then positional digits exponent ++ ['.', '0'] else positional digits exponent

/-- An exponent with its sign. -/
def exponentText (exponent : Int) : List Char :=
  'e' :: (if exponent < 0 then '-' else '+') :: Nat.toDigits 10 exponent.natAbs

/-- Digits with a point after the first one, if there are others, and the exponent of the first. -/
def scientific (digits : List Char) (leading : Int) : List Char :=
  match digits with
  | [first] => first :: exponentText leading
  | first :: places => first :: '.' :: (places ++ exponentText leading)
  | [] => exponentText leading

namespace Binary

variable {format : BinaryFormat}

/-- The text of a finite magnitude with a point or an exponent. -/
def markedMagnitude (format : BinaryFormat) (span : PositionalSpan) (magnitude : Nat) : List Char :=
  if magnitude = 0 then ['0', '.', '0']
  else
    let (multiple, exponent) := format.shortest .even magnitude
    let digits := Nat.toDigits 10 multiple
    let leading := exponent + digits.length - 1
    if span.contains leading then pointed digits exponent else scientific digits leading

/-- The text of a finite number with a point or an exponent. -/
def markedText? (span : PositionalSpan) : Binary format → Option (List Char)
  | .nan => none
  | .number negative magnitude =>
    if magnitude.val < format.infinity then
      let text := markedMagnitude format span magnitude
      some (if negative then '-' :: text else text)
    else none

/-- Exactly the finite numbers have a text with a point or an exponent. -/
theorem isSome_markedText? (span : PositionalSpan) (value : Binary format) :
    (value.markedText? span).isSome = value.isFinite := by
  cases value with
  | nan => rfl
  | number negative magnitude =>
    simp only [markedText?, isFinite]
    split <;> simp [*]

end Binary

end Stencil.Numeric
