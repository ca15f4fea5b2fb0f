import Stencil.Convert.Datum
import Stencil.Proofs.Numeric.Integer

/-!
# Integers with a width

The integers of typed data belong to types of several widths, with a sign or without one,
and a number of a JSON document is kept in one of three forms: a natural number of 64
bits, a negative integer of 64 bits, or a floating-point number.  Here both are what is
stored.  The type decides how an integer becomes a value, and the form decides for a
number.

Neither choice is seen in the value.  It depends on the integer alone, so that typed data
and JSON data can do with integers (`Whole.value_eq`, `JsonNumber.value_eq`), and an
integer and the number that it is written as become the same value (`Whole.value_number`).
-/

set_option autoImplicit false

namespace Stencil

open Numeric (Binary64 IsInt64 fitsInt64_iff isInt64_toInt)

/-! ## Values of integers -/

namespace Value

theorem ofInt_of_isInt64 {number : Int} (fits : IsInt64 number) :
    ofInt number = .int (.ofInt number) :=
  if_pos (fitsInt64_iff.mpr fits)

theorem ofInt_toInt (number : Int64) : ofInt number.toInt = .int number := by
  rw [ofInt_of_isInt64 (isInt64_toInt number), Int64.ofInt_toInt]

/-- An integer too large for 64 bits with a sign becomes a floating-point number. -/
theorem ofInt_of_large {number : Int} (large : 2 ^ 63 ≤ number) :
    ofInt number = .float (.ofInt number) :=
  if_neg fun fits => Int.not_lt.mpr large (fitsInt64_iff.mp fits).2

end Value

/-! ## Typed integers -/

/-- An integer of a type. -/
structure Whole where
  /-- Whether the integers of the type have a sign. -/
  signed : Bool
  width : Nat
  bits : BitVec width
  narrow : width ≤ 64

/-- The 64-bit integer with a sign that is the same number, if there is one. -/
def Numeric.checkedInt64 (number : UInt64) : Option Int64 :=
  if number.toNat < 2 ^ 63 then some (.ofNat number.toNat) else none

/-- The value of a natural number of 64 bits. -/
def Value.ofUInt64 (number : UInt64) : Value :=
  match Numeric.checkedInt64 number with
  | some same => .int same
  | none => .float (.ofInt number.toNat)

namespace Whole

/-- The integer. -/
def toInt (whole : Whole) : Int :=
  if whole.signed then whole.bits.toInt else whole.bits.toNat

/-- The value of an integer of a type.  It is extended where 64 bits with a sign are enough for the
type, and only the natural numbers of 64 bits have to be checked. -/
def value (whole : Whole) : Value :=
  if whole.signed then .int (.ofBitVec (whole.bits.signExtend 64))
  else if whole.width < 64 then .int (.ofBitVec (whole.bits.zeroExtend 64))
  else .ofUInt64 (.ofBitVec (whole.bits.zeroExtend 64))

end Whole

/-! ## JSON numbers -/

/-- A number of a JSON document. -/
inductive JsonNumber
  | natural (number : UInt64)
  | negative (number : Int64) (below : number < 0)
  | fraction (number : Binary64) (finite : number.isFinite = true)

namespace JsonNumber

/-- The number as JSON data. -/
def json : JsonNumber → Json
  | .natural number => .int number.toNat
  | .negative number _ => .int number.toInt
  | .fraction number _ => .float number

/-- The 64-bit integer that the number is. -/
def asInt64? : JsonNumber → Option Int64
  | .natural number => if number ≤ 9223372036854775807 then some number.toInt64 else none
  | .negative number _ => some number
  | .fraction .. => none

/-- The number as a floating-point number. -/
def asBinary64 : JsonNumber → Binary64
  | .natural number => .ofInt number.toNat
  | .negative number _ => .ofInt number.toInt
  | .fraction number _ => number

/-- The value of a number: an integer of 64 bits if it is one, and else a floating-point number. -/
def value (number : JsonNumber) : Value :=
  match number.asInt64? with
  | some integer => .int integer
  | none => .float number.asBinary64

end JsonNumber

/-- The number that a 64-bit integer is written as. -/
def JsonNumber.ofInt64 (number : Int64) : JsonNumber :=
  if below : number < 0 then .negative number below else .natural number.toUInt64

/-- The number that an integer of a type is written as. -/
def Whole.number (whole : Whole) : JsonNumber :=
  if whole.signed then .ofInt64 (.ofBitVec (whole.bits.signExtend 64))
  else .natural (.ofBitVec (whole.bits.zeroExtend 64))

/-! ## The choices are not seen -/

namespace Value

/-- A natural number with the first of 64 bits free keeps its bits. -/
theorem ofInt_toNat_of_small {bits : BitVec 64} (small : bits.toNat < 2 ^ 63) :
    ofInt bits.toNat = .int (.ofBitVec bits) := by
  have halved : 2 * bits.toNat < 2 ^ 64 := by omega
  rw [← BitVec.toInt_eq_toNat_of_lt halved, ← Int64.toInt_ofBitVec, ofInt_toInt]

theorem ofUInt64_eq (number : UInt64) : ofUInt64 number = ofInt number.toNat := by
  rw [ofUInt64, Numeric.checkedInt64]
  by_cases small : number.toNat < 2 ^ 63
  · rw [if_pos small, ← Int64.toInt_ofNat_of_lt small, ofInt_toInt]
  · rw [if_neg small, ofInt_of_large (by exact_mod_cast Nat.le_of_not_lt small)]

end Value

namespace JsonNumber

/-- **The value of a number depends on what it is, and not on its form.** -/
theorem value_eq (number : JsonNumber) : number.value = Value.ofJson number.json := by
  cases number with
  | natural number =>
    rw [value, asInt64?, json, Value.ofJson]
    by_cases small : number ≤ 9223372036854775807
    · have within : number.toNat < 2 ^ 63 := Nat.lt_succ_of_le (UInt64.le_iff_toNat_le.mp small)
      rw [if_pos small]
      exact (Value.ofInt_toNat_of_small within).symm
    · have large : 2 ^ 63 ≤ number.toNat :=
        Nat.lt_of_not_le fun within => small (UInt64.le_iff_toNat_le.mpr within)
      rw [if_neg small, Value.ofInt_of_large (by exact_mod_cast large)]
      rfl
  | negative number below => exact (Value.ofInt_toInt number).symm
  | fraction number finite => rfl

theorem json_ofInt64 (number : Int64) : (ofInt64 number).json = .int number.toInt := by
  rw [ofInt64]
  split
  · rfl
  · next natural =>
    have nonnegative : 0 ≤ number := Int64.not_lt.mp natural
    rw [json, Int64.toNat_toUInt64_of_le nonnegative, ← Int64.toNat_toInt,
      Int.toNat_of_nonneg (Int64.le_iff_toInt_le.mp nonnegative)]

end JsonNumber

namespace Whole

variable (whole : Whole)

/-- Repeating the sign up to 64 bits keeps an integer with a sign. -/
theorem toInt_signExtend : (Int64.ofBitVec (whole.bits.signExtend 64)).toInt = whole.bits.toInt := by
  rw [Int64.toInt_ofBitVec, BitVec.toInt_signExtend_of_le whole.narrow]

/-- Zeros up to 64 bits keep an integer without a sign. -/
theorem toNat_zeroExtend : (whole.bits.zeroExtend 64).toNat = whole.bits.toNat :=
  BitVec.toNat_setWidth_of_le whole.narrow

/-- **The value of a typed integer depends on the integer alone.** -/
theorem value_eq : whole.value = Value.ofDatum (.int whole.toInt) := by
  rw [value, Value.ofDatum, toInt]
  by_cases signed : whole.signed = true
  · rw [if_pos signed, if_pos signed, ← whole.toInt_signExtend, Value.ofInt_toInt]
  · rw [if_neg signed, if_neg signed, ← whole.toNat_zeroExtend]
    by_cases narrower : whole.width < 64
    · have small : (whole.bits.zeroExtend 64).toNat < 2 ^ 63 := by
        rw [whole.toNat_zeroExtend]
        exact Nat.lt_of_lt_of_le whole.bits.isLt (Nat.pow_le_pow_right (by decide) (by omega))
      rw [if_pos narrower, Value.ofInt_toNat_of_small small]
    · rw [if_neg narrower, Value.ofUInt64_eq, UInt64.toNat_ofBitVec]

theorem json_number : whole.number.json = .int whole.toInt := by
  rw [number, toInt]
  by_cases signed : whole.signed = true
  · rw [if_pos signed, if_pos signed, JsonNumber.json_ofInt64, whole.toInt_signExtend]
  · rw [if_neg signed, if_neg signed, ← whole.toNat_zeroExtend]
    rfl

/-- **An integer and the number that it is written as become the same value.** -/
theorem value_number : whole.number.value = whole.value := by
  rw [JsonNumber.value_eq, json_number, value_eq]
  rfl

/-- An integer of a type fits into 64 bits with a sign or without one. -/
theorem bounds : -2 ^ 63 ≤ whole.toInt ∧ whole.toInt < 2 ^ 64 := by
  rw [toInt]
  by_cases signed : whole.signed = true
  · have fits : IsInt64 whole.bits.toInt := whole.toInt_signExtend ▸ isInt64_toInt _
    rw [if_pos signed]
    exact ⟨fits.1, Int.lt_trans fits.2 (by decide)⟩
  · have fits : whole.bits.toNat < 2 ^ 64 := whole.toNat_zeroExtend ▸ BitVec.isLt _
    rw [if_neg signed]
    omega

/-- Every integer of a type can be written. -/
theorem isWritable_toInt : Serial.isWritable whole.toInt = true := by
  have bounds := whole.bounds
  simp only [Serial.isWritable, Bool.and_eq_true, decide_eq_true_eq]
  omega

end Whole

end Stencil
