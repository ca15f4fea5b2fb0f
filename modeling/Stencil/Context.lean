import Stencil.Error
import Stencil.Value.Basic

/-!
# Contexts

The named values that a template is rendered against.
-/

set_option autoImplicit false

namespace Stencil

/-- Values under names, in the order in which the names were inserted. -/
structure Context where
  entries : Entries Value

namespace Context

/-- The context without values. -/
def empty : Context := ⟨[]⟩

/-- Inserts a value under a name. -/
def insert (context : Context) (key : String) (value : Value) : Context :=
  ⟨context.entries.insert key value⟩

/-- Inserts serialized data under a name, or fails and inserts nothing. -/
def tryInsert (context : Context) (key : String) (data : Serial) : Except Error Context :=
  match Value.ofSerial data with
  | .ok value => .ok (context.insert key value)
  | .error cause => .error (.serial cause)

/-- The value under a name. -/
def get? (context : Context) (key : String) : Option Value :=
  context.entries.get? key

/-- Whether there is a value under a name. -/
def contains (context : Context) (key : String) : Bool :=
  context.entries.contains key

/-- Removes the value under a name, and gives it. -/
def remove (context : Context) (key : String) : Option Value × Context :=
  (context.get? key, ⟨context.entries.erase key⟩)

/-- The context as a map. -/
def toValue (context : Context) : Value :=
  .map context.entries

/-- Whether two contexts have equal values under the same names. -/
def equal (left right : Context) : Bool :=
  left.toValue.equal right.toValue

/-- The failure of making a context of data that is no map. -/
def notAMap : Error :=
  .general "Creating a Context from a Value/Serialize requires it being a JSON object"

/-- The context of JSON data. -/
def ofJson (data : Json) : Except Error Context :=
  match Value.ofJson data with
  | .map entries => .ok ⟨entries⟩
  | _ => .error notAMap

/-- The context of serialized data. -/
def ofSerial (data : Serial) : Except Error Context :=
  match data.toJson with
  | .ok json => ofJson json
  | .error cause => .error (.serial cause)

end Context

end Stencil
