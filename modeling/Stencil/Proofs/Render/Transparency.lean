import Stencil.Proofs.Render.Bindings
import Stencil.Proofs.Scope.Coherence

/-!
# Rendering does not see what scopes keep

A rendering is transparent if it ends in the same way from any two coherent scopes of
one value with the same bindings, and leaves coherent scopes with those bindings.
Resolving a path is transparent because in a coherent scope it is looking the path up;
everything else is put together from that.
-/

set_option autoImplicit false

namespace Stencil

open Scope (Coherent)

/-- Coherent scopes of one value with the same bindings resolve every path alike. -/
theorem Scope.Agrees.value_resolve {host : Host} {left right : Scope} (agrees : left.Agrees right)
    (coherentLeft : Coherent host left) (coherentRight : Coherent host right) (text : String) :
    (left.resolve host text).value.1 = (right.resolve host text).value.1 := by
  rw [coherentLeft.value_resolve, coherentRight.value_resolve, agrees.value, agrees.locals]

namespace Rendering

variable {host : Host} {α β : Type}

/-- A rendering that depends on the value and the bindings of a scope alone. -/
structure Transparent (host : Host) (rendering : Rendering α) : Prop where
  restores : rendering.Restores
  coherent : ∀ {scope}, Coherent host scope → Coherent host (rendering.outcome scope).scope
  result : ∀ {left right : Scope}, Coherent host left → Coherent host right → left.Agrees right →
    (rendering.outcome left).result = (rendering.outcome right).result

namespace Transparent

theorem andThen {first : Rendering α} {next : α → Rendering β}
    (transparent : first.Transparent host)
    (transparentNext : ∀ answer, (next answer).Transparent host) :
    (first.andThen next).Transparent host where
  restores := transparent.restores.andThen fun answer => (transparentNext answer).restores
  coherent := by
    intro scope coherent
    rw [outcome_andThen]
    cases (first.outcome scope).result with
    | error error => exact transparent.coherent coherent
    | ok answer => exact (transparentNext answer).coherent (transparent.coherent coherent)
  result := by
    intro left right coherentLeft coherentRight agrees
    rw [outcome_andThen, outcome_andThen, transparent.result coherentLeft coherentRight agrees]
    cases (first.outcome right).result with
    | error error => rfl
    | ok answer =>
      exact (transparentNext answer).result (transparent.coherent coherentLeft)
        (transparent.coherent coherentRight) (transparent.restores.agrees agrees)

theorem binding {body : Rendering α} (transparent : body.Transparent host) (name : String)
    (value : Value) : (binding name value body).Transparent host where
  restores := transparent.restores.binding name value
  coherent := by
    intro scope coherent
    rw [outcome_binding]
    exact (transparent.coherent (coherent.push name value)).pop name value
  result := by
    intro left right coherentLeft coherentRight agrees
    exact transparent.result (coherentLeft.push name value) (coherentRight.push name value)
      (agrees.push name value)

end Transparent

/-- A rendering that resolves a path and goes by the value found alone is transparent. -/
theorem transparent_of_resolve {rendering : Rendering α} (text : String)
    (conclude : Option Value → Except Error α)
    (resolves : ∀ scope, rendering.outcome scope =
      ⟨conclude (scope.resolve host text).value.1, (scope.resolve host text).value.2⟩) :
    rendering.Transparent host where
  restores := by
    intro scope
    simp only [resolves]
    exact Scope.agrees_resolve host scope text
  coherent := by
    intro scope coherent
    simp only [resolves]
    exact coherent.resolve text
  result := by
    intro left right coherentLeft coherentRight agrees
    simp only [resolves, agrees.value_resolve coherentLeft coherentRight]

/-- A rendering that neither looks at the scope nor changes it is transparent. -/
theorem transparent_of_constant {rendering : Rendering α} {result : Except Error α}
    (constant : ∀ scope, rendering.outcome scope = ⟨result, scope⟩) :
    rendering.Transparent host where
  restores := by
    intro scope
    rw [constant]
    exact .refl scope
  coherent := by
    intro scope coherent
    rw [constant]
    exact coherent
  result := by
    intro left right _ _ _
    rw [constant, constant]

theorem closed_transparent (host : Host) (strict : Bool) :
    Closed host strict (fun _ _ => True) (Transparent host) where
  answer := fun answer => transparent_of_constant fun scope => rfl
  fault := fun {flaw tail} _ =>
    transparent_of_constant (Template.Node.outcome_render_fault host strict flaw tail)
  display := fun path => transparent_of_resolve path
    (fun found => .ok ((found.map host.display).getD "").toList) fun scope => by
      rw [Template.Node.outcome_render_variable, Scope.value_display, Outcome.ok]
  directive := fun keyword =>
    transparent_of_constant (Template.Node.outcome_render_directive host strict keyword)
  elements := fun source => transparent_of_resolve source
    (fun found => .ok ((found.bind host.elements?).getD [])) (outcome_elementsAt host source)
  check := fun condition => transparent_of_resolve condition.path (condition.verdict strict)
    (Condition.outcome_check host strict condition)
  andThen := Transparent.andThen
  binding := fun name value transparent => transparent.binding name value

end Rendering

theorem Template.Node.transparent_renderAll (host : Host) (strict : Bool) (nodes : List Node) :
    (renderAll host strict nodes).Transparent host :=
  (Rendering.closed_transparent host strict).renderAll nodes fun _ => trivial

end Stencil
