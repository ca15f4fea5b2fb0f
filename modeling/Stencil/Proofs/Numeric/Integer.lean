import Mathlib.Data.Nat.Digits.Defs
import Stencil.Numeric.Integer

/-!
# The texts of integers

A text denotes an integer if it is a run of decimal digits behind at most one sign,
leading zeros allowed (`IsInteger`).  Reading finds exactly that integer
(`readInteger_eq_some_iff`), and as one of 64 bits exactly if it is one
(`readInt64_eq_some_iff`).  The text that an integer is shown as denotes it
(`isInteger_toString`).
-/

set_option autoImplicit false

namespace Stencil.Numeric

/-! ## Integers as they are written -/

/-- Runs of at least one decimal digit. -/
def IsDecimal (digits : List Char) : Prop :=
  digits ≠ [] ∧ ∀ digit ∈ digits, digit.isDigit = true

/-- The number of a run of decimal digits.  The last digit counts once, and every other one ten
times as much as the one behind it. -/
def decimalNumber (digits : List Char) : Nat :=
  Nat.ofDigits 10 (digits.reverse.map fun digit => digit.toNat - '0'.toNat)

/-- The texts that are integers, each with the number it denotes. -/
inductive IsInteger : List Char → Int → Prop
  | unsigned {digits : List Char} (isDecimal : IsDecimal digits) :
      IsInteger digits (decimalNumber digits)
  | plus {digits : List Char} (isDecimal : IsDecimal digits) :
      IsInteger ('+' :: digits) (decimalNumber digits)
  | minus {digits : List Char} (isDecimal : IsDecimal digits) :
      IsInteger ('-' :: digits) (-decimalNumber digits)

/-! ## Reading -/

theorem isDigits_iff {digits : List Char} : isDigits digits = true ↔ IsDecimal digits := by
  simp [isDigits, IsDecimal]

/-- Reading digits from the left, each new one after ten times the ones before, gives their
number. -/
theorem ofDigits_eq (digits : List Char) : ofDigits digits = decimalNumber digits := by
  rw [ofDigits, decimalNumber, Nat.ofDigits_eq_foldr, List.foldr_map, List.foldr_reverse]
  congr 1
  funext number digit
  exact Nat.add_comm ..

/-- A digit is no sign. -/
theorem splitSign_of_isDecimal {digits : List Char} (isDecimal : IsDecimal digits) :
    splitSign digits = (false, digits) := by
  obtain ⟨first, rest, rfl⟩ := List.exists_cons_of_ne_nil isDecimal.1
  have isDigit := isDecimal.2 first List.mem_cons_self
  unfold splitSign
  split
  · next same => simp [(List.cons.inj same).1, Char.isDigit] at isDigit
  · next same => simp [(List.cons.inj same).1, Char.isDigit] at isDigit
  · rfl

/-- **Reading an integer finds what the text denotes.** -/
theorem readInteger_eq_some_iff {text : List Char} {number : Int} :
    readInteger text = some number ↔ IsInteger text number := by
  constructor
  · intro read
    unfold readInteger splitSign at read
    split at read
    next negative digits split =>
    split at read
    · next isDecimal =>
      rw [isDigits_iff] at isDecimal
      obtain rfl := Option.some.inj read
      rw [ofDigits_eq]
      split at split
      · cases split
        exact .minus isDecimal
      · cases split
        exact .plus isDecimal
      · cases split
        exact .unsigned isDecimal
    · cases read
  · rintro (isDecimal | isDecimal | isDecimal)
    · simp [readInteger, splitSign_of_isDecimal isDecimal, isDigits_iff.mpr isDecimal, ofDigits_eq,
        signed]
    · simp [readInteger, splitSign, isDigits_iff.mpr isDecimal, ofDigits_eq, signed]
    · simp [readInteger, splitSign, isDigits_iff.mpr isDecimal, ofDigits_eq, signed]

/-- A text denotes one integer at most. -/
theorem IsInteger.unique {text : List Char} {left right : Int} (first : IsInteger text left)
    (second : IsInteger text right) : left = right := by
  rw [← readInteger_eq_some_iff] at first second
  exact Option.some.inj (first.symm.trans second)

/-- Integers of 64 bits with a sign. -/
def IsInt64 (number : Int) : Prop :=
  -2 ^ 63 ≤ number ∧ number < 2 ^ 63

instance (number : Int) : Decidable (IsInt64 number) :=
  inferInstanceAs (Decidable (_ ∧ _))

theorem fitsInt64_iff {number : Int} : fitsInt64 number = true ↔ IsInt64 number := by
  simp [fitsInt64, IsInt64]

theorem isInt64_toInt (number : Int64) : IsInt64 number.toInt :=
  ⟨number.le_toInt, number.toInt_lt⟩

/-- **Reading an integer of 64 bits finds what the text denotes, if it is one of 64 bits.** -/
theorem readInt64_eq_some_iff {text : List Char} {number : Int64} :
    readInt64 text = some number ↔ IsInteger text number.toInt := by
  refine ⟨fun read => readInteger_eq_some_iff.mp (readInteger_of_readInt64 read), fun denotes => ?_⟩
  rw [readInt64, readInteger_eq_some_iff.mpr denotes]
  exact (if_pos (fitsInt64_iff.mpr (isInt64_toInt number))).trans
    (congrArg some (Int64.ofInt_toInt number))

theorem readInt64_eq_none_iff {text : List Char} :
    readInt64 text = none ↔ ∀ number, IsInteger text number → ¬ IsInt64 number := by
  constructor
  · intro missing number denotes fits
    rw [readInt64, readInteger_eq_some_iff.mpr denotes] at missing
    simp [fitsInt64_iff.mpr fits] at missing
  · intro outside
    cases read : readInt64 text with
    | none => rfl
    | some number =>
      exact absurd (isInt64_toInt number) (outside _ (readInt64_eq_some_iff.mp read))

/-- The bounds are read, and what lies just beyond them is not. -/
example : readInt64 "+9223372036854775807".toList = some 9223372036854775807 ∧
    readInt64 "-0009223372036854775808".toList = some (-9223372036854775808) ∧
    readInt64 "9223372036854775808".toList = none ∧
    readInt64 "-9223372036854775809".toList = none := by decide +kernel

/-! ## Writing -/

theorem isDecimal_toDigits (number : Nat) : IsDecimal (Nat.toDigits 10 number) :=
  ⟨Nat.toDigits_ne_nil, fun _ member =>
    Nat.isDigit_of_mem_toDigits (by decide) (Nat.le_refl 10) member⟩

theorem decimalNumber_toDigits (number : Nat) :
    decimalNumber (Nat.toDigits 10 number) = number := by
  rw [← ofDigits_eq]
  exact Nat.ofDigitChars_ten_toDigits

theorem toList_toString (number : Int) :
    (toString number).toList =
      if 0 ≤ number then Nat.toDigits 10 number.toNat
      else '-' :: Nat.toDigits 10 (-number).toNat := by
  rw [Int.toString_eq_repr, Int.repr_eq_if]
  split
  · rw [Nat.toList_repr]
  · rw [String.toList_append, Nat.toList_repr]
    rfl

/-- **The text of an integer denotes it.** -/
theorem isInteger_toString (number : Int) : IsInteger (toString number).toList number := by
  rw [toList_toString]
  split
  · next natural =>
    have denotes := IsInteger.unsigned (isDecimal_toDigits number.toNat)
    rwa [decimalNumber_toDigits, Int.toNat_of_nonneg natural] at denotes
  · next negative =>
    have denotes := IsInteger.minus (isDecimal_toDigits (-number).toNat)
    rwa [decimalNumber_toDigits, Int.toNat_of_nonneg (by omega), Int.neg_neg] at denotes

/-- The text of an integer has digits only, but for a minus in front. -/
theorem eq_minus_or_isDigit_of_mem_toString {number : Int} {character : Char}
    (member : character ∈ (toString number).toList) :
    character = '-' ∨ character.isDigit = true := by
  rw [toList_toString] at member
  split at member
  · exact .inr ((isDecimal_toDigits _).2 character member)
  · exact (List.mem_cons.mp member).imp_right ((isDecimal_toDigits _).2 character)

end Stencil.Numeric
