import Stencil.Data.Entries
import Stencil.Numeric.Shortest
import Stencil.Value.Kind

/-!
# Values

The dynamic values that a template is rendered against: plain data, and handles
of instances that the host owns.  What only the host knows, the name of an
instance's type or its text, is a parameter of the functions that need it.

Two notions of equality are told apart.  *Identity* (`identical`) compares floats by
their bits and maps entry by entry in order; it is the equality of the logic
(`identical_iff`).  *Equality* (`equal`) compares floats as numbers, so that what is
not a number differs from itself, and maps without regard to order.  Both compare
objects by instance.
-/

set_option autoImplicit false

namespace Stencil

open Numeric (Binary64)

/-! ## Values and their kinds -/

/-- Which of the host's instances an object is. -/
structure Handle where
  index : Nat
  deriving DecidableEq, Repr

/-- A value found in a context. -/
inductive Value
  /-- Nothing. -/
  | null
  /-- A truth value. -/
  | bool (truth : Bool)
  /-- An integer of 64 bits. -/
  | int (number : Int64)
  /-- A floating-point number. -/
  | float (number : Binary64)
  /-- A text. -/
  | string (text : String)
  /-- A sequence of values. -/
  | list (items : List Value)
  /-- Values under names, in insertion order. -/
  | map (entries : List (String × Value))
  /-- An instance of the host. -/
  | object (handle : Handle)

namespace Value

instance : Inhabited Value := ⟨.null⟩

/-- The kind of a value, given the names of the types of objects. -/
def kind (typeName : Handle → String) : Value → Kind
  | .null => .null
  | .bool _ => .bool
  | .int _ => .int
  | .float _ => .float
  | .string _ => .string
  | .list _ => .list
  | .map _ => .map
  | .object handle => .object (typeName handle)

/-- Whether a value is nothing. -/
def isNull : Value → Bool
  | .null => true
  | _ => false

/-- The text of a string. -/
def asString? : Value → Option String
  | .string text => some text
  | _ => none

/-- The number of an integer. -/
def asInt? : Value → Option Int64
  | .int number => some number
  | _ => none

/-- The instance of an object. -/
def asObject? : Value → Option Handle
  | .object handle => some handle
  | _ => none

/-! ## Identity and equality -/

mutual
/-- Whether two values are identical. -/
def identical : Value → Value → Bool
  | .null, .null => true
  | .bool left, .bool right => left == right
  | .int left, .int right => left == right
  | .float left, .float right => left == right
  | .string left, .string right => left == right
  | .list left, .list right => allIdentical left right
  | .map left, .map right => entriesIdentical left right
  | .object left, .object right => left == right
  | _, _ => false

/-- Whether two lists are identical item by item. -/
def allIdentical : List Value → List Value → Bool
  | [], [] => true
  | left :: lefts, right :: rights => identical left right && allIdentical lefts rights
  | _, _ => false

/-- Whether two maps are identical entry by entry. -/
def entriesIdentical : List (String × Value) → List (String × Value) → Bool
  | [], [] => true
  | (leftKey, left) :: lefts, (rightKey, right) :: rights =>
    leftKey == rightKey && identical left right && entriesIdentical lefts rights
  | _, _ => false
end

mutual
/-- Whether two values are equal as data. -/
def equal : Value → Value → Bool
  | .null, .null => true
  | .bool left, .bool right => left == right
  | .int left, .int right => left == right
  | .float left, .float right => left.equal right
  | .string left, .string right => left == right
  | .list left, .list right => areEqual left right
  | .map left, .map right => left.length == right.length && entriesAreIn left right
  | .object left, .object right => left == right
  | _, _ => false

/-- Whether two lists are equal item by item. -/
def areEqual : List Value → List Value → Bool
  | [], [] => true
  | left :: lefts, right :: rights => equal left right && areEqual lefts rights
  | _, _ => false

/-- Whether each entry has an equal one under its name in another map. -/
def entriesAreIn : List (String × Value) → List (String × Value) → Bool
  | [], _ => true
  | (key, value) :: rest, others =>
    (match Entries.get? others key with
      | some other => equal value other
      | none => false) && entriesAreIn rest others
end

/-! ## Text -/

mutual
/-- The text of a value inside a template, given the texts of objects. -/
def display (objectText : Handle → String) : Value → String
  | .null => ""
  | .bool truth => if truth then "true" else "false"
  | .int number => toString number.toInt
  | .float number => String.ofList number.text
  | .string text => text
  | .list items => "[" ++ ", ".intercalate (displayAll objectText items) ++ "]"
  | .map _ => "[object]"
  | .object handle => objectText handle

/-- The texts of the items of a list. -/
def displayAll (objectText : Handle → String) : List Value → List String
  | [] => []
  | item :: items => display objectText item :: displayAll objectText items
end

/-! ## Identity is equality -/

mutual
/-- A value is identical to itself. -/
theorem identical_self : ∀ value : Value, identical value value = true
  | .null => rfl
  | .bool _ | .int _ | .float _ | .string _ | .object _ => by simp [identical]
  | .list items => allIdentical_self items
  | .map entries => entriesIdentical_self entries

theorem allIdentical_self : ∀ items : List Value, allIdentical items items = true
  | [] => rfl
  | item :: items => by simp [allIdentical, identical_self item, allIdentical_self items]

theorem entriesIdentical_self : ∀ entries : List (String × Value),
    entriesIdentical entries entries = true
  | [] => rfl
  | (key, value) :: rest => by
      simp [entriesIdentical, identical_self value, entriesIdentical_self rest]
end

mutual
/-- Identical values are the same value. -/
theorem eq_of_identical : ∀ {left right : Value}, identical left right = true → left = right
  | .null, right, same => by cases right <;> simp_all [identical]
  | .bool _, right, same => by cases right <;> simp_all [identical]
  | .int _, right, same => by cases right <;> simp_all [identical]
  | .float _, right, same => by cases right <;> simp_all [identical]
  | .string _, right, same => by cases right <;> simp_all [identical]
  | .object _, right, same => by cases right <;> simp_all [identical]
  | .list items, right, same => by
      cases right with
      | list others => exact congrArg Value.list (eq_of_allIdentical (by simpa [identical] using same))
      | _ => simp [identical] at same
  | .map entries, right, same => by
      cases right with
      | map others => exact congrArg Value.map (eq_of_entriesIdentical (by simpa [identical] using same))
      | _ => simp [identical] at same

theorem eq_of_allIdentical : ∀ {lefts rights : List Value}, allIdentical lefts rights = true → lefts = rights
  | [], [], _ => rfl
  | [], _ :: _, same => by simp [allIdentical] at same
  | _ :: _, [], same => by simp [allIdentical] at same
  | left :: lefts, right :: rights, same => by
      simp only [allIdentical, Bool.and_eq_true] at same
      rw [eq_of_identical same.1, eq_of_allIdentical same.2]

theorem eq_of_entriesIdentical : ∀ {lefts rights : List (String × Value)},
    entriesIdentical lefts rights = true → lefts = rights
  | [], [], _ => rfl
  | [], _ :: _, same => by simp [entriesIdentical] at same
  | _ :: _, [], same => by simp [entriesIdentical] at same
  | (leftKey, left) :: lefts, (rightKey, right) :: rights, same => by
      simp only [entriesIdentical, Bool.and_eq_true, beq_iff_eq] at same
      rw [same.1.1, eq_of_identical same.1.2, eq_of_entriesIdentical same.2]
end

/-- Identity is the equality of the logic. -/
theorem identical_iff {left right : Value} : identical left right = true ↔ left = right :=
  ⟨eq_of_identical, fun same => same ▸ identical_self left⟩

instance : DecidableEq Value := fun left right =>
  decidable_of_iff (identical left right = true) identical_iff

end Value

end Stencil
