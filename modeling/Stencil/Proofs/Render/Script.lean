import Stencil.Proofs.Render.Outcome
import Stencil.Proofs.Scope.Bindings

/-!
# What a rendering does to its scope

A rendering touches its scope in three ways only: it looks paths up, binds names and
takes bindings away.  A *script* says which of these it does next, depending on what
came of the ones before, and how it ends.

The script of a template is put together as its rendering is
(`Template.Node.scriptAll`), and carrying it out in a scope comes to the same as
rendering (`Template.Node.describes_scriptAll`).  So each look-up that a rendering
makes has its place in a list of acts (`Script.acts`).
-/

set_option autoImplicit false

namespace Stencil

/-! ## Scripts -/

/-- What to do next with a scope, until a result is reached. -/
inductive Script (α : Type)
  | done (result : Except Error α)
  | look (text : String) (next : Option Value → Script α)
  | push (name : String) (value : Value) (next : Script α)
  | pop (name : String) (value : Value) (next : Option Value → Script α)

/-- Something done with a scope. -/
inductive Act
  | look (text : String)
  | push (name : String) (value : Value)
  | pop (name : String) (value : Value)

/-- The scope after an act. -/
def Act.apply (host : Host) (scope : Scope) : Act → Scope
  | .look text => (scope.resolve host text).value.2
  | .push name value => scope.push name value
  | .pop name value => (scope.pop name value).2

namespace Script

variable {α β : Type}

/-- Goes on with the result of a script. -/
def bind (script : Script α) (next : Except Error α → Script β) : Script β :=
  match script with
  | .done result => next result
  | .look text rest => .look text fun found => bind (rest found) next
  | .push name value rest => .push name value (bind rest next)
  | .pop name value rest => .pop name value fun popped => bind (rest popped) next

/-- Goes on with the answer of a script, unless it failed. -/
def andThen (first : Script α) (next : α → Script β) : Script β :=
  first.bind fun result =>
    match result with
    | .ok answer => next answer
    | .error error => .done (.error error)

/-- One text after the other. -/
def append (first second : Script (List Char)) : Script (List Char) :=
  first.andThen fun before => second.andThen fun after => .done (.ok (before ++ after))

/-- Runs with a name bound to a value, and takes the binding away. -/
def binding (name : String) (value : Value) (body : Script α) : Script α :=
  .push name value (body.bind fun result => .pop name value fun _ => .done result)

/-- The texts of a body for each of some elements. -/
def forEach (name : String) (body : Script (List Char)) : List Value → Script (List Char)
  | [] => .done (.ok [])
  | element :: elements => (binding name element body).append (forEach name body elements)

/-- What a script comes to in a scope. -/
def run (host : Host) : Script α → Scope → Outcome α
  | .done result, scope => ⟨result, scope⟩
  | .look text next, scope =>
    run host (next (scope.resolve host text).value.1) (scope.resolve host text).value.2
  | .push name value next, scope => run host next (scope.push name value)
  | .pop name value next, scope =>
    run host (next (scope.pop name value).1) (scope.pop name value).2

/-- The acts of a script in a scope, in order. -/
def acts (host : Host) : Script α → Scope → List Act
  | .done _, _ => []
  | .look text next, scope =>
    .look text ::
      acts host (next (scope.resolve host text).value.1) (scope.resolve host text).value.2
  | .push name value next, scope => .push name value :: acts host next (scope.push name value)
  | .pop name value next, scope =>
    .pop name value :: acts host (next (scope.pop name value).1) (scope.pop name value).2

variable (host : Host)

/-- A script leaves the scope that its acts lead to. -/
theorem scope_run (script : Script α) (scope : Scope) :
    (script.run host scope).scope = (script.acts host scope).foldl (Act.apply host) scope := by
  induction script generalizing scope with
  | done result => rfl
  | look text next ih => rw [run, acts, List.foldl_cons, ih, Act.apply]
  | push name value next ih => rw [run, acts, List.foldl_cons, ih, Act.apply]
  | pop name value next ih => rw [run, acts, List.foldl_cons, ih, Act.apply]

theorem run_bind (script : Script α) (next : Except Error α → Script β) (scope : Scope) :
    (script.bind next).run host scope =
      (next (script.run host scope).result).run host (script.run host scope).scope := by
  induction script generalizing scope with
  | done result => rfl
  | look text rest ih => rw [bind, run, run, ih]
  | push name value rest ih => rw [bind, run, run, ih]
  | pop name value rest ih => rw [bind, run, run, ih]

/-! ## Scripts of renderings -/

/-- A rendering comes to what a script comes to. -/
def Describes (script : Script α) (rendering : Rendering α) : Prop :=
  ∀ scope, rendering.outcome scope = script.run host scope

variable {host}

theorem Describes.andThen {first : Script α} {next : α → Script β} {rendering : Rendering α}
    {renderingNext : α → Rendering β} (describes : first.Describes host rendering)
    (describesNext : ∀ answer, (next answer).Describes host (renderingNext answer)) :
    (first.andThen next).Describes host (rendering.andThen renderingNext) := by
  intro scope
  rw [Rendering.outcome_andThen, Script.andThen, run_bind, describes scope]
  cases (first.run host scope).result with
  | ok answer => exact describesNext answer _
  | error error => rfl

theorem Describes.append {first second : Script (List Char)}
    {rendering renderingNext : Rendering (List Char)} (describes : first.Describes host rendering)
    (describesNext : second.Describes host renderingNext) :
    (first.append second).Describes host (rendering.append renderingNext) :=
  describes.andThen fun _ => describesNext.andThen fun _ _ => rfl

theorem Describes.binding {body : Script α} {rendering : Rendering α}
    (describes : body.Describes host rendering) (name : String) (value : Value) :
    (body.binding name value).Describes host (rendering.binding name value) := by
  intro scope
  rw [Rendering.outcome_binding, Script.binding, run, run_bind, describes]
  rfl

theorem Describes.forEach {body : Script (List Char)} {rendering : Rendering (List Char)}
    (describes : body.Describes host rendering) (name : String) (elements : List Value) :
    (Script.forEach name body elements).Describes host
      (Rendering.forEach name rendering elements) := by
  induction elements with
  | nil => exact fun _ => rfl
  | cons element elements ih => exact (describes.binding name element).append ih

end Script

/-! ## Templates -/

namespace Template.Node

variable (host : Host) (strict : Bool)

mutual
/-- The script of a part of a template. -/
def script : Node → Script (List Char)
  | .text character => .done (.ok [character])
  | .variable path => .look path fun found => .done (.ok ((found.map host.display).getD "").toList)
  | .directive _ => .done (.ok [])
  | .loop header body =>
    .look header.source fun found =>
      .forEach header.name (scriptAll body) ((found.bind host.elements?).getD [])
  | .choice condition accepted rejected =>
    .look condition.path fun found =>
      match condition.verdict strict found with
      | .ok true => scriptAll accepted
      | .ok false => scriptAll rejected
      | .error error => .done (.error error)
  | .fault flaw tail => .done (.error (faultError flaw tail))

/-- The script of a template. -/
def scriptAll : List Node → Script (List Char)
  | [] => .done (.ok [])
  | node :: nodes => (script node).append (scriptAll nodes)
end

mutual
theorem describes_script : ∀ node : Node,
    (script host strict node).Describes host (render host strict node)
  | .text character => by
      intro scope
      rw [render, script, Script.run]
      rfl
  | .variable path => by
      intro scope
      rw [outcome_render_variable, Scope.value_display, script, Script.run, Script.run, Outcome.ok]
  | .directive keyword => by
      intro scope
      rw [outcome_render_directive, script, Script.run, Outcome.ok]
  | .loop header body => by
      intro scope
      rw [outcome_render_loop, script, Script.run]
      exact (describes_scriptAll body).forEach header.name _ _
  | .choice condition accepted rejected => by
      intro scope
      rw [outcome_render_choice, Condition.outcome_check, script, Script.run]
      dsimp only
      cases condition.verdict strict (scope.resolve host condition.path).value.1 with
      | error error =>
        rw [Script.run]
        rfl
      | ok holds =>
        cases holds with
        | true => exact describes_scriptAll accepted _
        | false => exact describes_scriptAll rejected _
  | .fault flaw tail => by
      intro scope
      rw [outcome_render_fault, script, Script.run, Outcome.failed]

/-- Rendering a template comes to what its script comes to. -/
theorem describes_scriptAll : ∀ nodes : List Node,
    (scriptAll host strict nodes).Describes host (renderAll host strict nodes)
  | [] => by
      intro scope
      rw [renderAll, scriptAll, Script.run]
      rfl
  | node :: nodes => by
      rw [renderAll, scriptAll]
      exact (describes_script node).append (describes_scriptAll nodes)
end

end Template.Node

end Stencil
