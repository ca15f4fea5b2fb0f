import Stencil.Value.Basic

/-!
# JSON data

Data as JSON can hold it, and the value it becomes.  The members of a JSON object
are kept in the order of their names, the last of several members of one name
counting; a number that is not finite has no JSON form and is null.  An integer
too large for 64 bits with a sign becomes the nearest floating-point number.
-/

set_option autoImplicit false

namespace Stencil

open Numeric (Binary Binary64 fitsInt64)

/-- JSON data. -/
inductive Json
  | null
  | bool (truth : Bool)
  | int (number : Int)
  | float (number : Binary64)
  | string (text : String)
  | array (items : List Json)
  | object (members : List (String × Json))

namespace Json

instance : Inhabited Json := ⟨.null⟩

/-- A floating-point number as JSON data. -/
def ofFloat (number : Binary64) : Json :=
  if number.isFinite then .float number else .null

/-- The JSON object with some members. -/
def ofMembers (members : List (String × Json)) : Json :=
  .object (Entries.sorted (Entries.ofPairs members))

end Json

namespace Value

/-- The value of an integer of at most 64 bits, with or without a sign. -/
def ofInt (number : Int) : Value :=
  if fitsInt64 number then .int (.ofInt number) else .float (Binary.ofInt number)

mutual
/-- The value of JSON data. -/
def ofJson : Json → Value
  | .null => .null
  | .bool truth => .bool truth
  | .int number => ofInt number
  | .float number => .float number
  | .string text => .string text
  | .array items => .list (ofJsonItems items)
  | .object members => .map (ofJsonMembers members)

/-- The values of the items of a JSON array. -/
def ofJsonItems : List Json → List Value
  | [] => []
  | item :: items => ofJson item :: ofJsonItems items

/-- The entries of a JSON object. -/
def ofJsonMembers : List (String × Json) → List (String × Value)
  | [] => []
  | (name, member) :: rest => (name, ofJson member) :: ofJsonMembers rest
end

end Value

end Stencil
