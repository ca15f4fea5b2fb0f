import Stencil.Proofs.Render.Closure
import Stencil.Proofs.Scope.Bindings

/-!
# Rendering restores the bindings

A rendering restores the bindings if the scope that it leaves is one of the same
value with the same bindings, from every scope and however it ends.  What is made of
such renderings is such a rendering again; for a loop this rests on the body alone,
since the binding that an iteration makes is the most recent one again when the body
has ended, also where it failed.
-/

set_option autoImplicit false

namespace Stencil

namespace Rendering

variable {α β : Type}

/-- The bindings afterwards are those from before, whether the rendering fails or not. -/
def Restores (rendering : Rendering α) : Prop :=
  ∀ scope : Scope, scope.Agrees (rendering.outcome scope).scope

/-- Scopes with the same bindings are left with the same bindings. -/
theorem Restores.agrees {rendering : Rendering α} (restores : rendering.Restores)
    {left right : Scope} (agrees : left.Agrees right) :
    (rendering.outcome left).scope.Agrees (rendering.outcome right).scope :=
  (restores left).symm.trans (agrees.trans (restores right))

theorem Restores.andThen {first : Rendering α} {next : α → Rendering β} (restores : first.Restores)
    (restoresNext : ∀ answer, (next answer).Restores) : (first.andThen next).Restores := by
  intro scope
  rw [outcome_andThen]
  cases (first.outcome scope).result with
  | error error => exact restores scope
  | ok answer => exact (restores scope).trans (restoresNext answer _)

theorem Restores.binding {body : Rendering α} (restores : body.Restores) (name : String)
    (value : Value) : (binding name value body).Restores := by
  intro scope
  rw [outcome_binding]
  exact (restores (scope.push name value)).pop

/-- A rendering that leaves the scope as resolving a path does keeps the bindings. -/
theorem restores_of_resolve {host : Host} {rendering : Rendering α} (text : String)
    (resolves : ∀ scope, (rendering.outcome scope).scope = (scope.resolve host text).value.2) :
    rendering.Restores := by
  intro scope
  rw [resolves]
  exact Scope.agrees_resolve host scope text

theorem closed_restores (host : Host) (strict : Bool) :
    Closed host strict (fun _ _ => True) Restores where
  answer := fun answer scope => .refl scope
  fault := fun {flaw tail} _ scope => by
    rw [Template.Node.outcome_render_fault]
    exact .refl scope
  display := fun path => restores_of_resolve path fun scope => by
    rw [Template.Node.outcome_render_variable, Scope.value_display, Outcome.ok]
  directive := fun keyword scope => by
    rw [Template.Node.outcome_render_directive]
    exact .refl scope
  elements := fun source => restores_of_resolve source fun scope => by
    rw [outcome_elementsAt, Outcome.ok]
  check := fun condition => restores_of_resolve condition.path fun scope => by
    rw [Condition.outcome_check]
  andThen := Restores.andThen
  binding := fun name value restores => restores.binding name value

end Rendering

theorem Template.Node.restores_renderAll (host : Host) (strict : Bool) (nodes : List Node) :
    (renderAll host strict nodes).Restores :=
  (Rendering.closed_restores host strict).renderAll nodes fun _ => trivial

/-- **Rendering restores the bindings.**  After a text has been rendered, or has failed anywhere,
the bindings of local names are those from before. -/
theorem Session.locals_render (host : Host) (session : Session) (text : String) :
    (session.render host text).value.2.scope.locals = session.scope.locals := by
  have restores := Template.Node.restores_renderAll host session.strict
    (Template.parse text.toList)
  rw [value_render]
  exact (restores session.scope).locals

end Stencil
