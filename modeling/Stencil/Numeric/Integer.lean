/-!
# Reading integers

An integer is written as an optional single sign and at least one ASCII digit.
A 64-bit integer is one of these whose value fits: a text that does not fit is
not read at all, it neither wraps nor stops at the bounds.
-/

set_option autoImplicit false

namespace Stencil.Numeric

/-- The number that a run of decimal digits denotes. -/
def ofDigits (digits : List Char) : Nat :=
  digits.foldl (fun number digit => 10 * number + (digit.toNat - '0'.toNat)) 0

/-- Whether a text is a run of at least one decimal digit. -/
def isDigits (text : List Char) : Bool :=
  !text.isEmpty && text.all Char.isDigit

/-- The sign a text starts with, true for minus, and the text after it. -/
def splitSign : List Char → Bool × List Char
  | '-' :: rest => (true, rest)
  | '+' :: rest => (false, rest)
  | text => (false, text)

/-- A natural number with a sign as an integer. -/
def signed (negative : Bool) (number : Nat) : Int :=
  if negative then -(number : Int) else number

/-- The integer a text denotes. -/
def readInteger (text : List Char) : Option Int :=
  let (negative, digits) := splitSign text
  if isDigits digits then some (signed negative (ofDigits digits)) else none

/-- Whether an integer fits into 64 bits with a sign. -/
def fitsInt64 (number : Int) : Bool :=
  -9223372036854775808 ≤ number && number < 9223372036854775808

/-- The 64-bit integer a text denotes. -/
def readInt64 (text : List Char) : Option Int64 :=
  match readInteger text with
  | some number => if fitsInt64 number then some (.ofInt number) else none
  | none => none

/-- A 64-bit integer that fits is not changed by taking its low bits. -/
theorem toInt_ofInt_of_fits {number : Int} (fits : fitsInt64 number = true) :
    (Int64.ofInt number).toInt = number := by
  simp only [fitsInt64, Bool.and_eq_true, decide_eq_true_eq] at fits
  exact Int64.toInt_ofInt_of_le (by omega) (by omega)

/-- What is read as a 64-bit integer is the integer that the text denotes. -/
theorem readInteger_of_readInt64 {text : List Char} {number : Int64}
    (read : readInt64 text = some number) : readInteger text = some number.toInt := by
  unfold readInt64 at read
  split at read
  · next wide found =>
    split at read
    · next fits =>
      obtain rfl := Option.some.inj read
      rw [found, toInt_ofInt_of_fits fits]
    · exact absurd read (by simp)
  · exact absurd read (by simp)

end Stencil.Numeric
