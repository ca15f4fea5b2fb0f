import Mathlib.Data.Int.Order.Basic
import Mathlib.Order.Compare
import Stencil.Proofs.Numeric.Integer
import Stencil.Proofs.Render.Outcome
import Stencil.Proofs.Text.Bytes

/-!
# Conditions decide true comparisons

What it means that a value stands to a literal as an operator says is stated here
without reading the literal (`Value.Satisfies`): an integer is compared with the integer
of 64 bits that the literal denotes, a truth value with the one that it spells in any
case, and a string with the literal itself, byte by byte.  A literal fits a value if it
denotes something of its kind (`Value.Fits`).  Every literal fits a string, and an
integer beyond 64 bits fits nothing.

A condition on one of these values holds if the value satisfies it and does not hold if the
value does not (`Condition.verdict_of_satisfies`, `Condition.verdict_of_not_satisfies`).
Where conditions are strict it fails if the literal does not fit
(`Condition.verdict_of_not_fits`).
-/

set_option autoImplicit false

namespace Stencil

open Numeric (IsInteger IsInt64 readInt64 readInt64_eq_some_iff readInt64_eq_none_iff)

/-! ## Operators -/

/-- Whether an operator relates two things of an ordered type. -/
def Operator.Relates {α : Type} [LT α] [LE α] : Operator → α → α → Prop
  | .less, left, right => left < right
  | .greater, left, right => left > right
  | .atMost, left, right => left ≤ right
  | .atLeast, left, right => left ≥ right
  | .equals, left, right => left = right

namespace Operator

/-- An operator is met by how two things compare exactly if it relates them. -/
theorem isMetBy_compare_iff {α : Type} [LinearOrder α] (operator : Operator) (left right : α) :
    operator.isMetBy (compare left right) = true ↔ operator.Relates left right := by
  cases operator with
  | less => simpa only [isMetBy, Relates, beq_iff_eq, bne_iff_ne] using compare_lt_iff_lt
  | greater => simpa only [isMetBy, Relates, beq_iff_eq, bne_iff_ne] using compare_gt_iff_gt
  | atMost => simpa only [isMetBy, Relates, beq_iff_eq, bne_iff_ne] using compare_le_iff_le
  | atLeast => simpa only [isMetBy, Relates, beq_iff_eq, bne_iff_ne] using compare_ge_iff_ge
  | equals => simpa only [isMetBy, Relates, beq_iff_eq, bne_iff_ne] using compare_eq_iff_eq

/-- An operator relates two texts exactly if it relates their bytes. -/
theorem relates_bytes_iff (operator : Operator) (left right : String) :
    operator.Relates (Text.bytes left) (Text.bytes right) ↔ operator.Relates left right := by
  have less {left right : String} : left < right ↔ Text.bytes left < Text.bytes right :=
    Text.lt_iff_bytes_lt
  cases operator with
  | less => exact less.symm
  | greater => exact less.symm
  | atMost => exact (not_congr less.symm).trans not_lt
  | atLeast => exact (not_congr less.symm).trans not_lt
  | equals => exact Text.bytes_injective.eq_iff

end Operator

/-! ## Literals -/

/-- The texts that spell a truth value, in any case. -/
def SpellsTruth (text : List Char) (truth : Bool) : Prop :=
  text.map Char.toLower = (if truth then "true" else "false").toList

theorem readBool_eq_some_iff {text : List Char} {truth : Bool} :
    readBool text = some truth ↔ SpellsTruth text truth := by
  have lower (word : List Char) (plain : word.map Char.toLower = word) :
      Text.alike text word = true ↔ text.map Char.toLower = word := by
    rw [Text.alike_iff, plain]
  unfold readBool SpellsTruth
  split
  · next spells =>
    rw [lower _ (by decide)] at spells
    cases truth <;> simp [spells]
  · next other =>
    rw [lower _ (by decide)] at other
    split
    · next spells =>
      rw [lower _ (by decide)] at spells
      cases truth <;> simp [spells]
    · next neither =>
      rw [lower _ (by decide)] at neither
      cases truth
      · simpa using neither
      · simpa using other

theorem SpellsTruth.unique {text : List Char} {left right : Bool} (first : SpellsTruth text left)
    (second : SpellsTruth text right) : left = right := by
  rw [← readBool_eq_some_iff] at first second
  exact Option.some.inj (first.symm.trans second)

namespace Value

/-- The values that have a true comparison with literals: integers, truth values and strings. -/
inductive IsScalar : Value → Prop
  | int (number : Int64) : IsScalar (.int number)
  | bool (truth : Bool) : IsScalar (.bool truth)
  | string (text : String) : IsScalar (.string text)

/-- A literal denotes something of the kind of a value. -/
inductive Fits : Value → String → Prop
  | int {left : Int64} {literal : String} {right : Int} (denotes : IsInteger literal.toList right)
      (small : IsInt64 right) : Fits (.int left) literal
  | bool {left right : Bool} {literal : String} (spells : SpellsTruth literal.toList right) :
      Fits (.bool left) literal
  | string {left literal : String} : Fits (.string left) literal

/-- A value stands to what a literal denotes as an operator says. -/
inductive Satisfies (operator : Operator) : Value → String → Prop
  | int {left : Int64} {literal : String} {right : Int} (denotes : IsInteger literal.toList right)
      (small : IsInt64 right) (relates : operator.Relates left.toInt right) :
      Satisfies operator (.int left) literal
  | bool {left right : Bool} {literal : String} (spells : SpellsTruth literal.toList right)
      (relates : operator.Relates left right) : Satisfies operator (.bool left) literal
  | string {left literal : String}
      (relates : operator.Relates (Text.bytes left) (Text.bytes literal)) :
      Satisfies operator (.string left) literal

theorem Satisfies.fits {operator : Operator} {value : Value} {literal : String}
    (satisfies : value.Satisfies operator literal) : value.Fits literal := by
  cases satisfies with
  | int denotes small relates => exact .int denotes small
  | bool spells relates => exact .bool spells
  | string relates => exact .string

/-! ## Comparing with a literal -/

/-- A value compares with a literal that fits it as the operators that it satisfies say. -/
theorem compareWith_of_fits {value : Value} {literal : String} (fits : value.Fits literal) :
    ∃ ordering, value.compareWith literal = .ordered ordering ∧
      ∀ operator : Operator, operator.isMetBy ordering = true ↔
        value.Satisfies operator literal := by
  cases fits with
  | @int left literal right denotes small =>
    have same : (Int64.ofInt right).toInt = right := Int64.toInt_ofInt_of_le small.1 small.2
    have read : readInt64 literal.toList = some (.ofInt right) := by
      rwa [readInt64_eq_some_iff, same]
    refine ⟨compare left.toInt right, ?_, fun operator => ?_⟩
    · simp only [compareWith, read, same]
    · rw [Operator.isMetBy_compare_iff]
      refine ⟨.int denotes small, ?_⟩
      rintro ⟨other, -, relates⟩
      rwa [denotes.unique other]
  | @bool left right literal spells =>
    refine ⟨compare left right, ?_, fun operator => ?_⟩
    · simp only [compareWith, readBool_eq_some_iff.mpr spells]
    · have relates_iff : operator.isMetBy (compare left right) = true ↔
          operator.Relates left right := operator.isMetBy_compare_iff left right
      rw [relates_iff]
      refine ⟨.bool spells, ?_⟩
      rintro (_ | ⟨other, relates⟩)
      rwa [spells.unique other]
  | @string left literal =>
    refine ⟨compare left literal, rfl, fun operator => ?_⟩
    have relates_iff : operator.isMetBy (compare left literal) = true ↔
        operator.Relates left literal := operator.isMetBy_compare_iff left literal
    rw [relates_iff, ← operator.relates_bytes_iff]
    refine ⟨.string, ?_⟩
    rintro (_ | _ | relates)
    exact relates

/-- A literal that does not fit one of these values cannot be read as its kind. -/
theorem compareWith_of_not_fits {value : Value} (scalar : value.IsScalar) {literal : String}
    (misfit : ¬ value.Fits literal) (typeName : Handle → String) :
    value.compareWith literal = .inconvertible (value.kind typeName) := by
  cases scalar with
  | int left =>
    have read : readInt64 literal.toList = none :=
      readInt64_eq_none_iff.mpr fun right denotes small => misfit (.int denotes small)
    simp only [compareWith, read, kind]
  | bool left =>
    have read : readBool literal.toList = none := by
      cases read : readBool literal.toList with
      | none => rfl
      | some right => exact absurd (.bool (readBool_eq_some_iff.mp read)) misfit
    simp only [compareWith, read, kind]
  | string left => exact absurd .string misfit

end Value

/-! ## Verdicts -/

section Verdict

variable {condition : Condition} {value : Value} {strict : Bool}

/-- A condition on a value that satisfies it holds. -/
theorem Condition.verdict_of_satisfies
    (satisfies : value.Satisfies condition.operator condition.literal) :
    condition.verdict strict (some value) = .ok true := by
  obtain ⟨ordering, compared, met⟩ := Value.compareWith_of_fits satisfies.fits
  simp only [verdict, compared, (met condition.operator).mpr satisfies]

/-- A condition on a value that does not satisfy it is false, unless the literal does not fit and
conditions are strict. -/
theorem Condition.verdict_of_not_satisfies (scalar : value.IsScalar)
    (fails : ¬ value.Satisfies condition.operator condition.literal)
    (passes : strict = true → value.Fits condition.literal) :
    condition.verdict strict (some value) = .ok false := by
  by_cases fits : value.Fits condition.literal
  · obtain ⟨ordering, compared, met⟩ := Value.compareWith_of_fits fits
    have unmet : condition.operator.isMetBy ordering = false :=
      Bool.eq_false_iff.mpr fun holds => fails ((met condition.operator).mp holds)
    simp only [verdict, compared, unmet]
  · have lenient : strict = false := Bool.eq_false_iff.mpr fun isStrict => fits (passes isStrict)
    simp only [verdict, Value.compareWith_of_not_fits scalar fits fun _ => "", lenient,
      Bool.false_eq_true, if_false]

/-- A literal that does not fit is a failure where conditions are strict. -/
theorem Condition.verdict_of_not_fits (scalar : value.IsScalar)
    (misfit : ¬ value.Fits condition.literal) (typeName : Handle → String) :
    condition.verdict true (some value) =
      .error (.condition condition.literal (value.kind typeName)) := by
  simp only [verdict, Value.compareWith_of_not_fits scalar misfit typeName, if_true]

end Verdict

/-! ## Values and their own texts -/

/-- Each of these values is equal to the text that it is shown as. -/
theorem Value.satisfies_display {value : Value} (scalar : value.IsScalar)
    (objectText : Handle → String) : value.Satisfies .equals (value.display objectText) := by
  cases scalar with
  | int number =>
    exact .int (Numeric.isInteger_toString number.toInt) (Numeric.isInt64_toInt number) rfl
  | bool truth =>
    have spells : SpellsTruth (if truth then "true" else "false").toList truth := by
      cases truth <;> rfl
    exact .bool spells rfl
  | string text => exact .string rfl

/-- The text of an integer or a truth value has letters, digits and a minus only. -/
theorem Value.plain_display {value : Value} (scalar : value.IsScalar)
    (noString : ∀ text, value ≠ .string text) {objectText : Handle → String} {character : Char}
    (member : character ∈ (value.display objectText).toList) :
    character = '-' ∨ character.isAlphanum = true := by
  cases scalar with
  | int number =>
    have known := Numeric.eq_minus_or_isDigit_of_mem_toString member
    exact known.imp_right fun isDigit => by simp [Char.isAlphanum, isDigit]
  | bool truth =>
    have letters : (if truth then "true" else "false").toList.all Char.isAlphanum = true := by
      cases truth <;> decide
    exact .inr (List.all_eq_true.mp letters character member)
  | string text => exact absurd rfl (noString text)

end Stencil
