import Stencil.Proofs.Render.Outcome
import Stencil.Proofs.Template.Fault

/-!
# Properties of renderings that templates keep

The text of a template is put together from a few renderings: an answer, a variable,
a directive, a malformed part, the elements of a loop, a condition, one rendering
after another, and a rendering under a binding.  A property of renderings that holds
of the simple ones and is kept by the composed ones (`Rendering.Closed`) holds of the
text of every template (`Rendering.Closed.renderAll`).

A property need not hold of every malformed part.  It is enough that it holds of those
that the template contains.
-/

set_option autoImplicit false

namespace Stencil.Rendering

open Template (Flaw FaultIn Node)

/-- A property with one clause for each way in which renderings are made.  Of the malformed parts
those count that are reached. -/
structure Closed (host : Host) (strict : Bool) (reached : Flaw → List Char → Prop)
    (holds : {α : Type} → Rendering α → Prop) : Prop where
  answer : ∀ {α : Type} (answer : α), holds fun scope => pure (.ok answer scope)
  fault : ∀ {flaw tail}, reached flaw tail → holds (Node.render host strict (.fault flaw tail))
  display : ∀ path, holds (Node.render host strict (.variable path))
  directive : ∀ keyword, holds (Node.render host strict (.directive keyword))
  elements : ∀ source, holds (elementsAt host source)
  check : ∀ condition : Condition, holds (condition.check host strict)
  andThen : ∀ {α β : Type} {first : Rendering α} {next : α → Rendering β},
    holds first → (∀ answer, holds (next answer)) → holds (first.andThen next)
  binding : ∀ {body : Rendering (List Char)} (name : String) (value : Value),
    holds body → holds (binding name value body)

namespace Closed

variable {host : Host} {strict : Bool} {reached : Flaw → List Char → Prop}
  {holds : {α : Type} → Rendering α → Prop} (closed : Closed host strict reached holds)
include closed

theorem append {first second : Rendering (List Char)} (holdsFirst : holds first)
    (holdsSecond : holds second) : holds (first.append second) :=
  closed.andThen holdsFirst fun before =>
    closed.andThen holdsSecond fun after => closed.answer (before ++ after)

theorem forEach {body : Rendering (List Char)} (holdsBody : holds body) (name : String)
    (elements : List Value) : holds (forEach name body elements) := by
  induction elements with
  | nil => exact closed.answer []
  | cons element elements ih => exact closed.append (closed.binding name element holdsBody) ih

mutual
theorem render : ∀ (node : Node) (nodes : List Node),
    (∀ {flaw tail}, FaultIn flaw tail (node :: nodes) → reached flaw tail) →
      holds (Node.render host strict node)
  | .text character, nodes, _ => by
      rw [Node.render]
      exact closed.answer [character]
  | .variable path, nodes, _ => closed.display path
  | .directive keyword, nodes, _ => closed.directive keyword
  | .loop header body, nodes, within => by
      rw [Node.render]
      have inBody := renderAll body fun inside => within (.body header nodes inside)
      exact closed.andThen (closed.elements header.source) (closed.forEach inBody header.name)
  | .choice condition accepted rejected, nodes, within => by
      rw [Node.render]
      refine closed.andThen (closed.check condition) fun decision => ?_
      cases decision with
      | true =>
        exact renderAll accepted fun inside => within (.accepted condition rejected nodes inside)
      | false =>
        exact renderAll rejected fun inside => within (.rejected condition accepted nodes inside)
  | .fault flaw tail, nodes, within => closed.fault (within (.here nodes))

/-- A closed property holds of the text of every template. -/
theorem renderAll : ∀ nodes : List Node,
    (∀ {flaw tail}, FaultIn flaw tail nodes → reached flaw tail) →
      holds (Node.renderAll host strict nodes)
  | [], _ => by
      rw [Node.renderAll]
      exact closed.answer []
  | node :: nodes, within => by
      rw [Node.renderAll]
      exact closed.append (render node nodes within)
        (renderAll nodes fun inside => within (.later node inside))
end

end Closed

end Stencil.Rendering
