import Stencil.Text.Grapheme
import Stencil.Value.Basic

/-!
# The elements of a value

What a loop visits: the items of a list, the entries of a map, the grapheme
clusters of a string, and whatever the host lets an instance be iterated as.
-/

set_option autoImplicit false

namespace Stencil.Value

/-- An entry of a map as a value of its own. -/
def ofEntry (key : String) (value : Value) : Value :=
  .map [("key", .string key), ("value", value)]

/-- The elements of a value, given those of objects. -/
def elements? (objectElements : Handle → Option (List Value)) : Value → Option (List Value)
  | .list items => some items
  | .map entries => some (entries.map fun (key, value) => ofEntry key value)
  | .string text => some ((Text.graphemes text.toList).map fun cluster => .string (.ofList cluster))
  | .object handle => objectElements handle
  | _ => none

end Stencil.Value
