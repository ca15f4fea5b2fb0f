/-!
# Kinds of values

The kind of a value picks the overload of a method and decides how the literal of
a condition is read.  Objects are told apart by the name of their concrete type
alone: two types of one name are of one kind.
-/

set_option autoImplicit false

namespace Stencil

/-- The kind of a value. -/
inductive Kind
  | null
  | bool
  | int
  | float
  | string
  | list
  | map
  | object (typeName : String)
  deriving DecidableEq, Repr

/-- A kind in the words of a message. -/
def Kind.text : Kind → String
  | .null => "null"
  | .bool => "a boolean"
  | .int => "an integer"
  | .float => "a float"
  | .string => "a string"
  | .list => "a list"
  | .map => "a map"
  | .object typeName => "an object of type `" ++ typeName ++ "`"

end Stencil
