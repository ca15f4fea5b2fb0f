import Stencil.Proofs.Render.Outcome

/-!
# Relations between two renderings of a template

A template can be rendered in two ways, with two hosts or with two sorts of conditions.
A relation between renderings that holds of the simple ones and is kept by the composed
ones (`Rendering.ClosedTogether`) holds between the two renderings of every template
(`Rendering.ClosedTogether.renderAll`).
-/

set_option autoImplicit false

namespace Stencil.Rendering

open Template (Node)

/-- A relation with one clause for each way in which renderings are made. -/
structure ClosedTogether (leftHost : Host) (leftStrict : Bool) (rightHost : Host)
    (rightStrict : Bool) (relates : {α : Type} → Rendering α → Rendering α → Prop) : Prop where
  answer : ∀ {α : Type} (answer : α),
    relates (fun scope => pure (.ok answer scope)) fun scope => pure (.ok answer scope)
  fault : ∀ flaw tail, relates (Node.render leftHost leftStrict (.fault flaw tail))
    (Node.render rightHost rightStrict (.fault flaw tail))
  display : ∀ path, relates (Node.render leftHost leftStrict (.variable path))
    (Node.render rightHost rightStrict (.variable path))
  directive : ∀ keyword, relates (Node.render leftHost leftStrict (.directive keyword))
    (Node.render rightHost rightStrict (.directive keyword))
  elements : ∀ source, relates (elementsAt leftHost source) (elementsAt rightHost source)
  check : ∀ condition : Condition,
    relates (condition.check leftHost leftStrict) (condition.check rightHost rightStrict)
  andThen : ∀ {α β : Type} {left right : Rendering α} {nextLeft nextRight : α → Rendering β},
    relates left right → (∀ answer, relates (nextLeft answer) (nextRight answer)) →
      relates (left.andThen nextLeft) (right.andThen nextRight)
  binding : ∀ {left right : Rendering (List Char)} (name : String) (value : Value),
    relates left right → relates (binding name value left) (binding name value right)

namespace ClosedTogether

variable {leftHost rightHost : Host} {leftStrict rightStrict : Bool}
  {relates : {α : Type} → Rendering α → Rendering α → Prop}
  (closed : ClosedTogether leftHost leftStrict rightHost rightStrict relates)
include closed

theorem append {left right leftNext rightNext : Rendering (List Char)}
    (first : relates left right) (second : relates leftNext rightNext) :
    relates (left.append leftNext) (right.append rightNext) :=
  closed.andThen first fun before =>
    closed.andThen second fun after => closed.answer (before ++ after)

theorem forEach {left right : Rendering (List Char)} (body : relates left right) (name : String)
    (elements : List Value) :
    relates (forEach name left elements) (forEach name right elements) := by
  induction elements with
  | nil => exact closed.answer []
  | cons element elements ih => exact closed.append (closed.binding name element body) ih

mutual
theorem render : ∀ node : Node,
    relates (Node.render leftHost leftStrict node) (Node.render rightHost rightStrict node)
  | .text character => by
      rw [Node.render, Node.render]
      exact closed.answer [character]
  | .variable path => closed.display path
  | .directive keyword => closed.directive keyword
  | .loop header body => by
      rw [Node.render, Node.render]
      exact closed.andThen (closed.elements header.source)
        (closed.forEach (renderAll body) header.name)
  | .choice condition accepted rejected => by
      rw [Node.render, Node.render]
      refine closed.andThen (closed.check condition) fun decision => ?_
      cases decision with
      | true => exact renderAll accepted
      | false => exact renderAll rejected
  | .fault flaw tail => closed.fault flaw tail

/-- A closed relation holds between the two renderings of every template. -/
theorem renderAll : ∀ nodes : List Node,
    relates (Node.renderAll leftHost leftStrict nodes) (Node.renderAll rightHost rightStrict nodes)
  | [] => by
      rw [Node.renderAll, Node.renderAll]
      exact closed.answer []
  | node :: nodes => by
      rw [Node.renderAll, Node.renderAll]
      exact closed.append (render node) (renderAll nodes)
end

end ClosedTogether

end Stencil.Rendering
