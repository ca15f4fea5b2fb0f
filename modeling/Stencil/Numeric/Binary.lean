/-!
# Binary floating-point numbers

Floating-point numbers as values of the logic.  Templates only ever read,
compare and print them, so a number is its sign and its *magnitude*: the bits
below the sign taken as a natural number.  The order of magnitudes is the order
of the numbers, the largest magnitude is infinity, and there is one value that
is not a number.

A format is given by its number of exponent bits and its precision.  With the
least positive number of the format as the unit every finite magnitude denotes a
natural number of units (`BinaryFormat.units`), and rounding a ratio of units to
a magnitude is exact integer arithmetic (`BinaryFormat.nearest`).
-/

set_option autoImplicit false

namespace Stencil.Numeric

/-- A binary interchange format. -/
structure BinaryFormat where
  /-- The number of bits of the exponent. -/
  exponentBits : Nat
  /-- The number of bits of the significand, the hidden one included. -/
  precision : Nat
  deriving DecidableEq, Repr

namespace BinaryFormat

/-- The format of 32 bits. -/
def single : BinaryFormat := ⟨8, 24⟩

/-- The format of 64 bits. -/
def double : BinaryFormat := ⟨11, 53⟩

/-- The least positive number is the power of one half with this exponent. -/
def scale (format : BinaryFormat) : Nat :=
  Nat.pow 2 (format.exponentBits - 1) + format.precision - 3

/-- The magnitude of infinity. -/
def infinity (format : BinaryFormat) : Nat :=
  (Nat.pow 2 format.exponentBits - 1) * Nat.pow 2 (format.precision - 1)

/-- The number of least positive numbers that a magnitude denotes. -/
def units (format : BinaryFormat) (magnitude : Nat) : Nat :=
  let hidden := Nat.pow 2 (format.precision - 1)
  if magnitude < 2 * hidden then magnitude
  else (hidden + magnitude % hidden) * Nat.pow 2 (magnitude / hidden - 1)

end BinaryFormat

/-- The quotient rounded to the nearest natural number, a half to the even one. -/
def roundToEven (numerator denominator : Nat) : Nat :=
  let quotient := numerator / denominator
  let remainder := numerator % denominator
  if 2 * remainder < denominator then quotient
  else if denominator < 2 * remainder then quotient + 1
  else quotient + quotient % 2

/-- The magnitude nearest to a ratio of units, a half going to the even one.  Enough low bits are
dropped that the precision is left; a carry out of the significand steps the exponent. -/
def BinaryFormat.nearest (format : BinaryFormat) (numerator denominator : Nat) : Nat :=
  let dropped := (numerator / denominator).log2 + 1 - format.precision
  min
    (dropped * Nat.pow 2 (format.precision - 1)
      + roundToEven numerator (denominator * Nat.pow 2 dropped))
    format.infinity

/-- A floating-point number of a format. -/
inductive Binary (format : BinaryFormat)
  /-- The value that is not a number. -/
  | nan
  /-- A number, finite or infinite. -/
  | number (negative : Bool) (magnitude : Fin (format.infinity + 1))
  deriving DecidableEq, Repr

/-- Floating-point numbers of 32 bits. -/
abbrev Binary32 := Binary .single

/-- Floating-point numbers of 64 bits. -/
abbrev Binary64 := Binary .double

namespace Binary

variable {format : BinaryFormat}

/-- The zero of either sign. -/
def zero (negative : Bool) : Binary format :=
  .number negative 0

/-- The infinity of either sign. -/
def infinite (negative : Bool) : Binary format :=
  .number negative (.last _)

/-- The number nearest to a ratio of units. -/
def ofRatio (negative : Bool) (numerator denominator : Nat) : Binary format :=
  .number negative ⟨format.nearest numerator denominator,
    Nat.lt_succ_of_le (Nat.min_le_right _ _)⟩

/-- The number nearest to an integer. -/
def ofInt (number : Int) : Binary format :=
  ofRatio (number < 0) (number.natAbs * Nat.pow 2 format.scale) 1

/-- Whether the value is a number and not infinite. -/
def isFinite : Binary format → Bool
  | .nan => false
  | .number _ magnitude => magnitude.val < format.infinity

/-- Whether the value is not a number. -/
def isNaN : Binary format → Bool
  | .nan => true
  | .number .. => false

/-- The place of a number in the order of the numbers.  Both zeros have the same place. -/
def rank (negative : Bool) (magnitude : Nat) : Int :=
  if negative then -(magnitude : Int) else magnitude

/-- How two values compare.  What is not a number compares with nothing. -/
def compare? : Binary format → Binary format → Option Ordering
  | .number leftNegative left, .number rightNegative right =>
    some (compare (rank leftNegative left) (rank rightNegative right))
  | _, _ => none

/-- Whether two values are equal as numbers. -/
def equal (left right : Binary format) : Bool :=
  compare? left right == some .eq

/-- The 64-bit number with the value of a 32-bit one. -/
def widen : Binary32 → Binary64
  | .nan => .nan
  | .number negative magnitude =>
    if magnitude.val = BinaryFormat.single.infinity then infinite negative
    else
      ofRatio negative
        (BinaryFormat.single.units magnitude
          * Nat.pow 2 (BinaryFormat.double.scale - BinaryFormat.single.scale)) 1

/-- A value equals itself as a number unless it is not a number. -/
theorem equal_self (value : Binary format) : value.equal value = !value.isNaN := by
  cases value with
  | nan => rfl
  | number negative magnitude =>
    simp [equal, compare?, isNaN]

end Binary

end Stencil.Numeric
