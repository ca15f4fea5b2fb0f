import Stencil.Numeric.Integer
import Stencil.Numeric.Binary

/-!
# Reading floating-point numbers from decimal text

A number is written as an optional sign, digits with an optional point among or
around them, and an optional exponent; at least one digit stands before the
exponent, and at least one in it.  The words `inf`, `infinity` and `nan` are read
in any case.  No blank is skipped.

A numeral denotes an exact decimal fraction.  The number read is the nearest one
of its format, a half going to the even one (`Binary.ofNumeral`).
-/

set_option autoImplicit false

namespace Stencil.Numeric

/-- What the text of a floating-point number denotes. -/
inductive Numeral
  /-- What is not a number. -/
  | nan
  /-- An infinity. -/
  | infinite (negative : Bool)
  /-- The digits as a number, times the power of ten with the exponent. -/
  | decimal (negative : Bool) (digits : Nat) (exponent : Int)
  deriving DecidableEq, Repr

/-- The exponent a text denotes: nothing, or a letter `e` and an integer. -/
def readExponent : List Char → Option Int
  | [] => some 0
  | letter :: rest => if letter = 'e' ∨ letter = 'E' then readInteger rest else none

/-- The unsigned decimal fraction a text denotes. -/
def readFraction (negative : Bool) (text : List Char) : Option Numeral :=
  let whole := text.takeWhile Char.isDigit
  let (places, rest) : List Char × List Char :=
    match text.dropWhile Char.isDigit with
    | '.' :: rest => (rest.takeWhile Char.isDigit, rest.dropWhile Char.isDigit)
    | rest => ([], rest)
  if whole.isEmpty && places.isEmpty then none
  else
    (readExponent rest).map fun exponent =>
      .decimal negative (ofDigits (whole ++ places)) (exponent - places.length)

/-- The numeral a text denotes. -/
def readNumeral (text : List Char) : Option Numeral :=
  let (negative, rest) := splitSign text
  match String.ofList (rest.map Char.toLower) with
  | "nan" => some .nan
  | "inf" | "infinity" => some (.infinite negative)
  | _ => readFraction negative rest

/-- The number of decimal digits of a natural number. -/
def digitCount (number : Nat) : Nat :=
  (Nat.toDigits 10 number).length

namespace Binary

variable {format : BinaryFormat}

/-- The number nearest to a numeral.  Far outside the range of the format the answer is known
without computing the power of ten. -/
def ofNumeral : Numeral → Binary format
  | .nan => .nan
  | .infinite negative => infinite negative
  | .decimal negative digits exponent =>
    let leading := digitCount digits + exponent
    if digits = 0 ∨ leading < -(format.scale : Int) then zero negative
    else if (format.scale : Int) + 1 < leading then infinite negative
    else
      ofRatio negative (digits * Nat.pow 10 exponent.toNat * Nat.pow 2 format.scale)
        (Nat.pow 10 (-exponent).toNat)

/-- The number nearest to what a text denotes. -/
def read (text : List Char) : Option (Binary format) :=
  (readNumeral text).map ofNumeral

end Binary

end Stencil.Numeric
