import Stencil.Event
import Stencil.Host.Declaration

/-!
# Looking members up

A search says which members of a chain of types may be found: those of the first
type alone or of all of them, and all members or the static ones alone.  A search
of instances sees static members too.

Within one declaration the last of several fields, or properties, of one name is
found, and the first of several methods of one name and the same parameters.  A
member that is found but not admitted does not hide one farther up.
-/

set_option autoImplicit false

namespace Stencil

/-- Which members may be found. -/
structure Search where
  /-- Only static members. -/
  staticOnly : Bool
  /-- Members of the supertypes too. -/
  inherited : Bool
  deriving DecidableEq, Repr

namespace Search

/-- The members of the first type alone. -/
def own : Search := ⟨false, false⟩

/-- The members of all types. -/
def all : Search := ⟨false, true⟩

/-- The same search for static members alone. -/
def statics (search : Search) : Search :=
  { search with staticOnly := true }

/-- Whether a static or an instance member may be found. -/
def permits (search : Search) (isStatic : Bool) : Bool :=
  !search.staticOnly || isStatic

end Search

namespace Declaration

/-- The declared members of a sort. -/
def members (declaration : Declaration) : MemberSort → List Member
  | .field => declaration.fields
  | .property => declaration.properties

/-- The member of a name that a declaration lets a search find. -/
def member? (declaration : Declaration) (sort : MemberSort) (search : Search) (name : String) :
    Option Member :=
  match (declaration.members sort).reverse.find? fun member => member.name = name with
  | some member => if search.permits member.isStatic then some member else none
  | none => none

/-- The overload of a name and parameters that a declaration lets a search find. -/
def method? (declaration : Declaration) (search : Search) (name : String) (kinds : List Kind) :
    Option Method :=
  declaration.methods.find? fun method =>
    method.name = name && search.permits method.isStatic && method.parameters = kinds

end Declaration

/-- What was found up a chain of types. -/
structure Located (α : Type) where
  /-- How many steps up the declaring type is. -/
  steps : Nat
  /-- What the declaring type declares. -/
  declaration : Declaration
  found : α

/-- The first find up a chain of declarations that starts some steps up. -/
def locate {α : Type} (inherited : Bool) (find? : Declaration → Option α) :
    Nat → List Declaration → Option (Located α)
  | _, [] => none
  | steps, declaration :: rest =>
    match find? declaration with
    | some found => some ⟨steps, declaration, found⟩
    | none => if inherited then locate inherited find? (steps + 1) rest else none

end Stencil
