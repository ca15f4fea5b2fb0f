import Stencil.Scope.Basic
import Stencil.Template.Node
import Stencil.Value.Comparison

/-!
# Rendering

The text of a template in a scope.  Rendering goes from left to right and
stops at the first failure: a malformed part that it reaches, or, where conditions
are strict, a literal that cannot be read as the kind of the value it is compared
with.  The scope that a rendering leaves is given whether it fails or not.

A loop binds its name for each element in turn and takes the binding away again,
also when the body fails.  A condition whose value is missing, has no order, or
does not fit the literal is false.
-/

set_option autoImplicit false

namespace Stencil

open Template (Node)

/-! ## Computations in a scope -/

/-- How a rendering ends. -/
structure Outcome (α : Type) where
  result : Except Error α
  /-- The scope afterwards. -/
  scope : Scope

namespace Outcome

/-- A success. -/
def ok {α : Type} (answer : α) (scope : Scope) : Outcome α :=
  ⟨.ok answer, scope⟩

/-- A failure. -/
def failed {α : Type} (error : Error) (scope : Scope) : Outcome α :=
  ⟨.error error, scope⟩

end Outcome

/-- A computation in a scope that can fail. -/
abbrev Rendering (α : Type) : Type := Scope → Noted (Outcome α)

namespace Rendering

variable {α β : Type}

/-- Goes on with the answer of a rendering, unless it failed. -/
def andThen (first : Rendering α) (next : α → Rendering β) : Rendering β := fun scope => do
  let outcome ← first scope
  match outcome.result with
  | .ok answer => next answer outcome.scope
  | .error error => return .failed error outcome.scope

/-- One text after the other. -/
def append (first second : Rendering (List Char)) : Rendering (List Char) :=
  andThen first fun before => andThen second fun after => fun scope =>
    pure (.ok (before ++ after) scope)

/-- Runs with a name bound to a value, and takes the binding away. -/
def binding (name : String) (value : Value) (body : Rendering α) : Rendering α :=
  fun scope => do
    let outcome ← body (scope.push name value)
    return ⟨outcome.result, (outcome.scope.pop name value).2⟩

/-- The texts of a body for each of some elements. -/
def forEach (name : String) (body : Rendering (List Char)) : List Value → Rendering (List Char)
  | [] => fun scope => pure (.ok [] scope)
  | element :: elements => append (binding name element body) (forEach name body elements)

end Rendering

/-! ## Conditions and elements -/

/-- Whether a condition holds. -/
def Condition.check (host : Host) (strict : Bool) (condition : Condition) : Rendering Bool :=
  fun scope => do
    let (found, scope) ← scope.resolve host condition.path
    match found with
    | none =>
      Noted.note (.undefined condition)
      return .ok false scope
    | some value =>
      match value.compareWith condition.literal with
      | .ordered ordering => return .ok (condition.operator.isMetBy ordering) scope
      | .unordered =>
        Noted.note (.unordered condition (host.kind value))
        return .ok false scope
      | .inconvertible kind =>
        if strict then return .failed (.condition condition.literal kind) scope
        else
          Noted.note (.inconvertible condition kind)
          return .ok false scope

/-- The elements that a loop over a path visits. -/
def Rendering.elementsAt (host : Host) (source : String) : Rendering (List Value) := fun scope => do
  let (found, scope) ← scope.resolve host source
  match found.bind host.elements? with
  | some elements => return .ok elements scope
  | none =>
    Noted.note (.notIterable source)
    return .ok [] scope

/-! ## Templates -/

namespace Template.Node

mutual
/-- The text of a part of a template. -/
def render (host : Host) (strict : Bool) : Node → Rendering (List Char)
  | .text character => fun scope => pure (.ok [character] scope)
  | .variable path => fun scope => do
    let (shown, scope) ← scope.display host path
    return .ok shown.toList scope
  | .directive keyword => fun scope => do
    Noted.note (.unknownDirective keyword)
    return .ok [] scope
  | .loop header body =>
    .andThen (Rendering.elementsAt host header.source)
      (Rendering.forEach header.name (renderAll host strict body))
  | .choice condition accepted rejected =>
    .andThen (condition.check host strict) fun holds =>
      if holds then renderAll host strict accepted else renderAll host strict rejected
  | .fault flaw tail => fun scope => pure (.failed (faultError flaw tail) scope)

/-- The text of a template. -/
def renderAll (host : Host) (strict : Bool) : List Node → Rendering (List Char)
  | [] => fun scope => pure (.ok [] scope)
  | node :: nodes => .append (render host strict node) (renderAll host strict nodes)
end

end Template.Node

end Stencil
