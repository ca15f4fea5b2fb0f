import Stencil.Host.Declaration

/-!
# Members given by formulas

Members whose behaviour is data: a getter, a result or a text is a formula over
slots and arguments, a setter stores what it accepts in a slot.
-/

set_option autoImplicit false

namespace Stencil

/-- An expression over slots and arguments. -/
inductive Formula
  /-- The value in a slot, nothing if the slot is absent. -/
  | slot (name : String)
  | constant (value : Value)
  /-- An argument by position, nothing if there are fewer. -/
  | argument (position : Nat)
  /-- The texts of several values joined. -/
  | concat (parts : List Formula)

namespace Formula

mutual
/-- The value of a formula. -/
def eval (surroundings : Surroundings) (arguments : List Value) (slots : Slots) : Formula → Value
  | .slot name => (slots.get? name).getD .null
  | .constant value => value
  | .argument position => arguments.getD position .null
  | .concat parts => .string (evalText surroundings arguments slots parts)

/-- The joined texts of several formulas. -/
def evalText (surroundings : Surroundings) (arguments : List Value) (slots : Slots) :
    List Formula → String
  | [] => ""
  | part :: parts =>
    surroundings.display (eval surroundings arguments slots part)
      ++ evalText surroundings arguments slots parts
end

end Formula

/-- A setter that stores what it accepts. -/
structure Storing where
  /-- The slot that is written. -/
  slot : String
  /-- The one kind that is accepted, or none for every kind. -/
  accepted : Option Kind
  deriving DecidableEq, Repr

/-- Takes a value if its kind is accepted. -/
def Storing.set (storing : Storing) (surroundings : Surroundings) (value : Value) (slots : Slots) :
    Bool × Slots :=
  match storing.accepted with
  | some kind =>
    if surroundings.kind value = kind then (true, slots.insert storing.slot value)
    else (false, slots)
  | none => (true, slots.insert storing.slot value)

/-- The member with a formula as getter, and a setter that stores. -/
def Member.ofFormula (name : String) (isStatic : Bool) (getter : Formula)
    (setter : Option Storing) : Member where
  name := name
  isStatic := isStatic
  get := fun surroundings slots => getter.eval surroundings [] slots
  set? := setter.map Storing.set

/-- The method that stores the value of one formula in a slot and returns that of another. -/
def Method.ofFormula (name : String) (parameters : List Kind) (isStatic : Bool) (result : Formula)
    (stored : Option (String × Formula)) : Method where
  name := name
  parameters := parameters
  isStatic := isStatic
  call := fun surroundings arguments slots =>
    let after :=
      match stored with
      | some (slot, formula) => slots.insert slot (formula.eval surroundings arguments slots)
      | none => slots
    (result.eval surroundings arguments after, after)

/-- Displays an instance as the text of a formula. -/
def Formula.displayHook (formula : Formula) (surroundings : Surroundings) (slots : Slots) :
    String :=
  surroundings.display (formula.eval surroundings [] slots)

/-- Iterates an instance as the list in a slot; a value that is no list is visited alone. -/
def iterateSlot (slot : String) (slots : Slots) : List Value :=
  match slots.get? slot with
  | some (.list items) => items
  | some value => [value]
  | none => []

end Stencil
