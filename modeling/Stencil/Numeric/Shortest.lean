import Stencil.Numeric.Decimal

/-!
# The shortest text of a floating-point number

A number is written with the fewest decimal digits that read back as the same
number; of two such texts of one length the nearer one is taken, and a number
half-way between them is settled by a rule for ties.  The text of a number takes
the larger one.  Its digits stand in positional notation whatever the size of the
number, without a point when there is nothing after it.

The reals that round to a number form an interval around it, which contains its
ends exactly when the magnitude is even.  The digits are a point in that interval
on the coarsest decimal grid that has one, and on that grid only the two points
next to the number have to be looked at.
-/

set_option autoImplicit false

namespace Stencil.Numeric

/-! ## Digits -/

/-- Which of two neighbouring points is taken for a number half-way between them. -/
inductive Tie
  /-- The larger one. -/
  | larger
  /-- The even one. -/
  | even
  deriving DecidableEq, Repr

/-- The point taken for a number half-way between a point and the next one. -/
def Tie.settle : Tie → Nat → Nat
  | .larger, below => below + 1
  | .even, below => below + below % 2

namespace BinaryFormat

/-- The point nearest to a number among the multiples of a power of ten that round to it, as a
multiple of that power. -/
def onGrid (format : BinaryFormat) (tie : Tie) (magnitude : Nat) (exponent : Int) : Option Nat :=
  let factor := Nat.pow 10 (-exponent).toNat
  let spacing := 2 * Nat.pow 2 format.scale * Nat.pow 10 exponent.toNat
  let value := 2 * format.units magnitude * factor
  let lower := (format.units (magnitude - 1) + format.units magnitude) * factor
  let upper := (format.units magnitude + format.units (magnitude + 1)) * factor
  let inside (multiple : Nat) : Bool :=
    if magnitude % 2 = 0 then lower ≤ multiple * spacing && multiple * spacing ≤ upper
    else lower < multiple * spacing && multiple * spacing < upper
  let below := value / spacing
  match inside below, inside (below + 1) with
  | true, true =>
    match compare (2 * (value % spacing)) spacing with
    | .lt => some below
    | .eq => some (tie.settle below)
    | .gt => some (below + 1)
  | true, false => some below
  | false, true => some (below + 1)
  | false, false => none

/-- An exponent such that the power of ten is not less than the number. -/
def topExponent (format : BinaryFormat) (magnitude : Nat) : Int :=
  let one := Nat.pow 2 format.scale
  let whole := format.units magnitude / one
  if whole = 0 then 1 - (digitCount (one / format.units magnitude) : Int)
  else digitCount whole

/-- The digits of a positive finite number, as a natural number and a power of ten. -/
def shortest (format : BinaryFormat) (tie : Tie) (magnitude : Nat) : Nat × Int :=
  ((List.range (format.precision + 2)).findSome? fun (step : Nat) =>
    let exponent := format.topExponent magnitude - (step : Int)
    (format.onGrid tie magnitude exponent).map fun digits => (digits, exponent)).getD (0, 0)

end BinaryFormat

/-! ## Positional notation -/

/-- Digits times a power of ten in positional notation. -/
def positional (digits : List Char) (exponent : Int) : List Char :=
  let places := (-exponent).toNat
  if places = 0 then digits ++ List.replicate exponent.toNat '0'
  else if places < digits.length then
    digits.take (digits.length - places) ++ '.' :: digits.drop (digits.length - places)
  else '0' :: '.' :: (List.replicate (places - digits.length) '0' ++ digits)

namespace Binary

variable {format : BinaryFormat}

/-- The text of a magnitude. -/
def magnitudeText (format : BinaryFormat) (magnitude : Nat) : List Char :=
  if magnitude = 0 then ['0']
  else if format.infinity ≤ magnitude then ['i', 'n', 'f']
  else
    let (digits, exponent) := format.shortest .larger magnitude
    positional (Nat.toDigits 10 digits) exponent

/-- The shortest text of a number. -/
def text : Binary format → List Char
  | .nan => ['N', 'a', 'N']
  | .number negative magnitude =>
    if negative then '-' :: magnitudeText format magnitude else magnitudeText format magnitude

end Binary

end Stencil.Numeric
