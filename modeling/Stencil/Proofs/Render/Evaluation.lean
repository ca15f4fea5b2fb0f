import Stencil.Proofs.Render.Outcome
import Stencil.Proofs.Scope.Bindings
import Stencil.Proofs.Template.Reading

/-!
# Rendering is evaluation of the written tree

A well-formed template can be evaluated where it stands, as a tree, without
writing it down: plain text is itself, a variable is the text of the value at its
path, a tag without a meaning is the text behind its keyword, a loop is its body
once for every element with the name bound around it, and a condition is one of
its branches.  The only failure is a literal that does not fit the value it is
compared with, where conditions are strict (`Misfit`).

Rendering the text of such a template in any scope gives exactly that
(`render_printAll`), down to the scope that is left.
-/

set_option autoImplicit false

namespace Stencil

/-- A literal that is no text of a value of the kind it is compared with. -/
structure Misfit where
  literal : String
  kind : Kind

def Misfit.error (misfit : Misfit) : Error :=
  .condition misfit.literal misfit.kind

/-- What evaluating comes to, and the scope that it leaves. -/
abbrev Evaluation (α : Type) : Type := Except Misfit α × Scope

namespace Evaluation

def toOutcome {α : Type} (evaluation : Evaluation α) : Outcome α :=
  ⟨evaluation.1.mapError Misfit.error, evaluation.2⟩

/-- One text and then another, up to the first failure. -/
def followedBy (first : Evaluation (List Char)) (next : Scope → Evaluation (List Char)) :
    Evaluation (List Char) :=
  match first with
  | (.error misfit, after) => (.error misfit, after)
  | (.ok text, after) =>
    match next after with
    | (.error misfit, last) => (.error misfit, last)
    | (.ok others, last) => (.ok (text ++ others), last)

/-- One of two texts, as a condition decides. -/
def choose (condition : Evaluation Bool) (accepted rejected : Scope → Evaluation (List Char)) :
    Evaluation (List Char) :=
  match condition with
  | (.error misfit, after) => (.error misfit, after)
  | (.ok true, after) => accepted after
  | (.ok false, after) => rejected after

end Evaluation

namespace Template

open Text (trim)

section Definitions

variable (host : Host) (strict : Bool)

/-! ## Evaluating a tree -/

/-- Whether a condition holds in a scope. -/
def ConditionTag.evaluate (tag : ConditionTag) (scope : Scope) : Evaluation Bool :=
  match (scope.resolve host (.ofList tag.path)).value with
  | (none, after) => (.ok false, after)
  | (some left, after) =>
    match left.compareWith (.ofList tag.value) with
    | .ordered ordering => (.ok (tag.operator.isMetBy ordering), after)
    | .unordered => (.ok false, after)
    | .inconvertible kind =>
      (if strict then .error ⟨.ofList tag.value, kind⟩ else .ok false, after)

/-- Evaluates a body once for each element, each time with the name bound to the element. -/
def evaluateEach (name : String) (body : Scope → Evaluation (List Char)) :
    List Value → Scope → Evaluation (List Char)
  | [], scope => (.ok [], scope)
  | element :: elements, scope =>
    let inner := body (scope.push name element)
    Evaluation.followedBy (inner.1, (inner.2.pop name element).2) (evaluateEach name body elements)

/-- A body that shows a text for each of some items, and leaves the scope as it was, shows the texts
of all of them one after the other. -/
theorem evaluateEach_of_ok {α : Type} {name : String} {body : Scope → Evaluation (List Char)}
    {scope : Scope} {element : α → Value} {shown : α → List Char}
    (shows : ∀ item,
      body (scope.push name (element item)) = (.ok (shown item), scope.push name (element item)))
    (items : List α) :
    evaluateEach name body (items.map element) scope = (.ok (items.flatMap shown), scope) := by
  induction items with
  | nil => rfl
  | cons item items ih =>
    simp only [List.map_cons, evaluateEach, shows, Scope.pop_push, Evaluation.followedBy, ih,
      List.flatMap_cons]

namespace Piece

mutual
/-- The text of a piece in a scope. -/
def evaluate : Piece → Scope → Evaluation (List Char)
  | .plain text, scope => (.ok text.text, scope)
  | .variable path, scope =>
    let shown := (scope.display host (.ofList path.text)).value
    (.ok shown.1.toList, shown.2)
  | .directive tag, scope => (.ok (tag.header.text ++ closeTag.text), scope)
  | .loop tag body, scope =>
    let looked := (scope.resolve host (.ofList tag.source)).value
    evaluateEach (.ofList tag.name) (evaluateAll body)
      ((looked.1.bind host.elements?).getD []) looked.2
  | .when tag accepted, scope =>
    (tag.evaluate host strict scope).choose (evaluateAll accepted) fun after => (.ok [], after)
  | .choice tag accepted rejected, scope =>
    (tag.evaluate host strict scope).choose (evaluateAll accepted) (evaluateAll rejected)

/-- The text of pieces one after the other. -/
def evaluateAll : List Piece → Scope → Evaluation (List Char)
  | [], scope => (.ok [], scope)
  | piece :: pieces, scope => (evaluate piece scope).followedBy (evaluateAll pieces)
end

end Piece

end Definitions

/-! ## Rendering a tree -/

section Agreement

variable {host : Host} {strict : Bool}

theorem outcome_append_followedBy {first second : Rendering (List Char)}
    {evaluation : Evaluation (List Char)} {next : Scope → Evaluation (List Char)} {scope : Scope}
    (agreesFirst : first.outcome scope = evaluation.toOutcome)
    (agreesNext : ∀ after, second.outcome after = (next after).toOutcome) :
    (first.append second).outcome scope = (evaluation.followedBy next).toOutcome := by
  rw [Rendering.outcome_append, agreesFirst]
  obtain ⟨result, after⟩ := evaluation
  cases result with
  | error misfit => rfl
  | ok text =>
    simp only [Evaluation.toOutcome, Except.mapError, agreesNext, Evaluation.followedBy]
    obtain ⟨others, last⟩ := next after
    cases others <;> rfl

theorem outcome_forEach {name : String} {rendering : Rendering (List Char)}
    {body : Scope → Evaluation (List Char)}
    (agrees : ∀ scope, rendering.outcome scope = (body scope).toOutcome) (elements : List Value)
    (scope : Scope) :
    (Rendering.forEach name rendering elements).outcome scope =
      (evaluateEach name body elements scope).toOutcome := by
  induction elements generalizing scope with
  | nil => rfl
  | cons element elements ih =>
    refine outcome_append_followedBy ?_ ih
    rw [Rendering.outcome_binding, agrees]
    rfl

theorem outcome_check (tag : ConditionTag) (scope : Scope) :
    (tag.condition.check host strict).outcome scope =
      (tag.evaluate host strict scope).toOutcome := by
  rw [Condition.outcome_check]
  simp only [ConditionTag.evaluate, ConditionTag.condition]
  obtain ⟨found, after⟩ := (scope.resolve host (.ofList tag.path)).value
  cases found with
  | none => rfl
  | some left =>
    simp only [Condition.verdict]
    cases left.compareWith (.ofList tag.value) with
    | ordered ordering => rfl
    | unordered => rfl
    | inconvertible kind => cases strict <;> rfl

/-- The spaces around the path of a variable do not matter. -/
theorem trim_spaced (text : List Char) : trim (' ' :: text ++ [' ']) = trim text := by
  have blank : Text.AllBlank [' '] := by decide
  exact Text.trim_append blank blank

theorem display_spaced (path : List Char) (scope : Scope) :
    scope.display host (.ofList (' ' :: path ++ [' '])) = scope.display host (.ofList path) := by
  simp only [Scope.display, Scope.resolve, String.toList_ofList, trim_spaced]

theorem outcome_choice (tag : ConditionTag) {accepted rejected : List Node}
    {onAccepted onRejected : Scope → Evaluation (List Char)}
    (agreesAccepted : ∀ scope,
      (Node.renderAll host strict accepted).outcome scope = (onAccepted scope).toOutcome)
    (agreesRejected : ∀ scope,
      (Node.renderAll host strict rejected).outcome scope = (onRejected scope).toOutcome)
    (scope : Scope) :
    (Node.renderAll host strict [.choice tag.condition accepted rejected]).outcome scope =
      ((tag.evaluate host strict scope).choose onAccepted onRejected).toOutcome := by
  rw [Node.outcome_renderAll_singleton, Node.outcome_render_choice, outcome_check]
  obtain ⟨result, after⟩ := tag.evaluate host strict scope
  cases result with
  | error misfit => rfl
  | ok holds =>
    cases holds with
    | false => exact agreesRejected after
    | true => exact agreesAccepted after

namespace Piece

mutual
theorem outcome_renderAll_nodes : ∀ (piece : Piece) (scope : Scope),
    (Node.renderAll host strict piece.nodes).outcome scope =
      (piece.evaluate host strict scope).toOutcome
  | .plain text, scope => by
      rw [nodes, evaluate]
      exact Node.outcome_renderAll_text host strict text.text scope
  | .variable path, scope => by
      rw [nodes, evaluate, Node.outcome_renderAll_singleton, Node.outcome_render_variable,
        display_spaced]
      obtain ⟨shown, after⟩ := (scope.display host (.ofList path.text)).value
      rfl
  | .directive tag, scope => by
      rw [nodes, evaluate, Node.renderAll,
        Rendering.outcome_append_of_ok (Node.outcome_render_directive host strict _ scope),
        Node.outcome_renderAll_text]
      rfl
  | .loop tag body, scope => by
      rw [nodes, evaluate, Node.outcome_renderAll_singleton, Node.outcome_render_loop]
      simp only [LoopTag.header]
      exact outcome_forEach (outcome_renderAll_nodesAll body) _ _
  | .when tag accepted, scope => by
      rw [nodes, evaluate]
      refine outcome_choice tag (outcome_renderAll_nodesAll accepted) (fun after => ?_) scope
      rw [Node.renderAll]
      rfl
  | .choice tag accepted rejected, scope => by
      rw [nodes, evaluate]
      exact outcome_choice tag (outcome_renderAll_nodesAll accepted)
        (outcome_renderAll_nodesAll rejected) scope

theorem outcome_renderAll_nodesAll : ∀ (pieces : List Piece) (scope : Scope),
    (Node.renderAll host strict (nodesAll pieces)).outcome scope =
      (evaluateAll host strict pieces scope).toOutcome
  | [], scope => by
      rw [nodesAll, evaluateAll, Node.renderAll]
      rfl
  | piece :: pieces, scope => by
      rw [nodesAll, evaluateAll, Node.outcome_renderAll_append]
      exact outcome_append_followedBy (outcome_renderAll_nodes piece scope)
        (outcome_renderAll_nodesAll pieces)
end

end Piece

end Agreement

end Template

/-- The text of pieces that evaluate to a text renders to it. -/
theorem Session.value_render_of_evaluateAll {host : Host} {session : Session}
    {pieces : List Template.Piece} {text : List Char} {after : Scope}
    (evaluates : Template.Piece.evaluateAll host session.strict pieces session.scope =
      (.ok text, after)) :
    (session.render host (.ofList (Template.Piece.printAll pieces))).value =
      (.ok (.ofList text), { session with scope := after }) := by
  have read := Template.Piece.parse_printAll pieces []
  rw [List.append_nil, Template.parse_nil, List.append_nil] at read
  rw [value_render, String.toList_ofList, read, Template.Piece.outcome_renderAll_nodesAll,
    evaluates]
  rfl

/-- **Rendering is evaluation of the written tree.**  In every session, the text that is written
from well-formed pieces renders to what the pieces evaluate to, and leaves the same scope. -/
theorem Session.render_printAll (host : Host) (session : Session) (pieces : List Template.Piece) :
    (session.render host (.ofList (Template.Piece.printAll pieces))).value =
      match Template.Piece.evaluateAll host session.strict pieces session.scope with
      | (.ok text, after) => (.ok (.ofList text), { session with scope := after })
      | (.error misfit, after) => (.error misfit.error, { session with scope := after }) := by
  have read := Template.Piece.parse_printAll pieces []
  rw [List.append_nil, Template.parse_nil, List.append_nil] at read
  have agrees : (Template.Node.renderAll host session.strict (Template.Piece.nodesAll pieces)
      session.scope).value = _ :=
    Template.Piece.outcome_renderAll_nodesAll pieces session.scope
  simp only [Session.render, Noted.value_bind, String.toList_ofList, read, agrees]
  cases Template.Piece.evaluateAll host session.strict pieces session.scope with
  | mk result after => cases result <;> rfl

end Stencil
