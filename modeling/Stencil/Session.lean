import Stencil.Render
import Stencil.Template.Parse

/-!
# Sessions

A session renders templates against one root value.  It keeps the scope of
that value from one rendering to the next, with the names bound from outside and
the members that earlier paths went through.
-/

set_option autoImplicit false

namespace Stencil

/-- A root value with all that is kept about it. -/
structure Session where
  scope : Scope
  /-- Whether a literal that does not fit the value it is compared with is a failure. -/
  strict : Bool

namespace Session

/-- The session of a root value.  Conditions are lenient. -/
def new (host : Host) (root : Value) : Session :=
  ⟨.new host root, false⟩

/-- The session of serialized data. -/
def ofSerial (host : Host) (data : Serial) : Except Error Session :=
  match Value.ofSerial data with
  | .ok root => .ok (new host root)
  | .error cause => .error (.serial cause)

/-- Renders a text, and gives the session as it is afterwards. -/
def render (host : Host) (session : Session) (text : String) :
    Noted (Except Error String × Session) := do
  let outcome ← Template.Node.renderAll host session.strict (Template.parse text.toList) session.scope
  return (outcome.result.map String.ofList, { session with scope := outcome.scope })

/-- Renders a text against a root value once. -/
def renderOnce (host : Host) (root : Value) (text : String) : Noted (Except Error String) := do
  let (result, _) ← (new host root).render host text
  return result

end Session

end Stencil
