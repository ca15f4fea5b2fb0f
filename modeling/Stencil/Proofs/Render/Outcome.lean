import Stencil.Session

/-!
# Outcomes of composed renderings

What a composed rendering comes to, in terms of the outcomes of its parts.  The
events on the way never matter for an outcome, so the equations here speak of
values alone.

There is one equation for each sort of node, and rendering one list of nodes
behind another comes to the same as rendering both together
(`Template.Node.outcome_renderAll_append`).
-/

set_option autoImplicit false

namespace Stencil

namespace Rendering

variable {α β : Type}

/-- The outcome of a rendering, events left out. -/
def outcome (rendering : Rendering α) (scope : Scope) : Outcome α :=
  (rendering scope).value

theorem outcome_pure (answer : α) (scope : Scope) :
    outcome (fun scope => pure (.ok answer scope)) scope = .ok answer scope := rfl

theorem outcome_andThen (first : Rendering α) (next : α → Rendering β) (scope : Scope) :
    (first.andThen next).outcome scope =
      match (first.outcome scope).result with
      | .ok answer => (next answer).outcome (first.outcome scope).scope
      | .error error => .failed error (first.outcome scope).scope := by
  simp only [outcome, andThen, Noted.value_bind]
  cases (first scope).value.result <;> rfl

theorem outcome_append (first second : Rendering (List Char)) (scope : Scope) :
    (first.append second).outcome scope =
      match (first.outcome scope).result with
      | .ok before =>
        ⟨(second.outcome (first.outcome scope).scope).result.map (before ++ ·),
          (second.outcome (first.outcome scope).scope).scope⟩
      | .error error => .failed error (first.outcome scope).scope := by
  rw [append, outcome_andThen]
  cases (first.outcome scope).result with
  | error error => rfl
  | ok before =>
    simp only [outcome_andThen]
    cases (second.outcome (first.outcome scope).scope).result <;> rfl

theorem outcome_append_of_ok {first : Rendering (List Char)} {scope after : Scope}
    {before : List Char} (succeeds : first.outcome scope = .ok before after)
    (second : Rendering (List Char)) :
    (first.append second).outcome scope =
      ⟨(second.outcome after).result.map (before ++ ·), (second.outcome after).scope⟩ := by
  rw [outcome_append, succeeds]
  rfl

/-- If both texts together come to an end, each does. -/
theorem ok_of_append {first second : Rendering (List Char)} {scope : Scope} {output : List Char}
    (succeeds : ((first.append second).outcome scope).result = .ok output) :
    ∃ before middle others, first.outcome scope = .ok before middle ∧
      (second.outcome middle).result = .ok others := by
  rw [outcome_append] at succeeds
  cases firstly : first.outcome scope with
  | mk result middle =>
    rw [firstly] at succeeds
    cases result with
    | error error => cases succeeds
    | ok before =>
      cases secondly : (second.outcome middle).result with
      | error error => simp [secondly, Except.map] at succeeds
      | ok others => exact ⟨before, middle, others, rfl, secondly⟩

theorem outcome_binding (name : String) (value : Value) (body : Rendering α) (scope : Scope) :
    (binding name value body).outcome scope =
      ⟨(body.outcome (scope.push name value)).result,
        ((body.outcome (scope.push name value)).scope.pop name value).2⟩ := rfl

/-- Renderings one after the other can be grouped in any way. -/
theorem outcome_append_assoc (first second third : Rendering (List Char)) (scope : Scope) :
    ((first.append second).append third).outcome scope =
      (first.append (second.append third)).outcome scope := by
  simp only [outcome_append]
  cases (first.outcome scope).result with
  | error error => rfl
  | ok before =>
    cases second.outcome (first.outcome scope).scope with
    | mk result middle =>
      cases result with
      | error error => rfl
      | ok inner => cases (third.outcome middle).result <;> simp [Except.map]

/-! ## Elements and conditions -/

theorem outcome_elementsAt (host : Host) (source : String) (scope : Scope) :
    (elementsAt host source).outcome scope =
      .ok (((scope.resolve host source).value.1.bind host.elements?).getD [])
        (scope.resolve host source).value.2 := by
  simp only [outcome, elementsAt, Noted.value_bind]
  obtain ⟨found, after⟩ := (scope.resolve host source).value
  cases found.bind host.elements? <;> rfl

end Rendering

/-- What a condition comes to for the value at its path. -/
def Condition.verdict (strict : Bool) (condition : Condition) : Option Value → Except Error Bool
  | none => .ok false
  | some left =>
    match left.compareWith condition.literal with
    | .ordered ordering => .ok (condition.operator.isMetBy ordering)
    | .unordered => .ok false
    | .inconvertible kind =>
      if strict then .error (.condition condition.literal kind) else .ok false

theorem Condition.outcome_check (host : Host) (strict : Bool) (condition : Condition)
    (scope : Scope) :
    (condition.check host strict).outcome scope =
      ⟨condition.verdict strict (scope.resolve host condition.path).value.1,
        (scope.resolve host condition.path).value.2⟩ := by
  simp only [Rendering.outcome, check, Noted.value_bind]
  obtain ⟨found, after⟩ := (scope.resolve host condition.path).value
  cases found with
  | none => rfl
  | some left =>
    simp only [verdict]
    cases left.compareWith condition.literal with
    | ordered ordering => rfl
    | unordered => rfl
    | inconvertible kind => cases strict <;> rfl

namespace Template.Node

variable (host : Host) (strict : Bool)

/-! ## Single nodes -/

theorem outcome_render_variable (path : String) (scope : Scope) :
    (render host strict (.variable path)).outcome scope =
      .ok (scope.display host path).value.1.toList (scope.display host path).value.2 := by
  rw [render]
  simp only [Rendering.outcome, Noted.value_bind]
  obtain ⟨shown, after⟩ := (scope.display host path).value
  rfl

theorem outcome_render_directive (keyword : String) (scope : Scope) :
    (render host strict (.directive keyword)).outcome scope = .ok [] scope := by
  rw [render]
  rfl

theorem outcome_render_fault (flaw : Flaw) (tail : List Char) (scope : Scope) :
    (render host strict (.fault flaw tail)).outcome scope =
      .failed (faultError flaw tail) scope := by
  rw [render]
  rfl

/-- The elements of a loop are looked up once, before its body is rendered for each. -/
theorem outcome_render_loop (header : LoopHeader) (body : List Node) (scope : Scope) :
    (render host strict (.loop header body)).outcome scope =
      (Rendering.forEach header.name (renderAll host strict body)
        (((scope.resolve host header.source).value.1.bind host.elements?).getD [])).outcome
        (scope.resolve host header.source).value.2 := by
  rw [render, Rendering.outcome_andThen, Rendering.outcome_elementsAt]
  simp only [Outcome.ok]

/-- The condition decides which branch is rendered, or fails and neither is. -/
theorem outcome_render_choice (condition : Condition) (accepted rejected : List Node)
    (scope : Scope) :
    (render host strict (.choice condition accepted rejected)).outcome scope =
      match ((condition.check host strict).outcome scope).result with
      | .ok true =>
        (renderAll host strict accepted).outcome ((condition.check host strict).outcome scope).scope
      | .ok false =>
        (renderAll host strict rejected).outcome ((condition.check host strict).outcome scope).scope
      | .error error => .failed error ((condition.check host strict).outcome scope).scope := by
  rw [render, Rendering.outcome_andThen]
  cases ((condition.check host strict).outcome scope).result with
  | error error => rfl
  | ok holds => cases holds <;> rfl

/-! ## Lists of nodes -/

/-- Rendering one list of nodes behind another comes to the same as rendering both together. -/
theorem outcome_renderAll_append (before after : List Node) (scope : Scope) :
    (renderAll host strict (before ++ after)).outcome scope =
      ((renderAll host strict before).append (renderAll host strict after)).outcome scope := by
  induction before generalizing scope with
  | nil =>
    rw [List.nil_append, renderAll,
      Rendering.outcome_append_of_ok (Rendering.outcome_pure [] scope)]
    cases (renderAll host strict after).outcome scope with
    | mk result scope => cases result <;> rfl
  | cons node nodes ih =>
    rw [List.cons_append, renderAll, renderAll, Rendering.outcome_append_assoc,
      Rendering.outcome_append, Rendering.outcome_append, ih]

theorem outcome_renderAll_singleton (node : Node) (scope : Scope) :
    (renderAll host strict [node]).outcome scope = (render host strict node).outcome scope := by
  rw [renderAll, Rendering.outcome_append, renderAll]
  simp only [Rendering.outcome_pure]
  cases (render host strict node).outcome scope with
  | mk result after => cases result <;> simp [Outcome.ok, Outcome.failed, Except.map]

/-- Plain text is rendered as itself. -/
theorem outcome_renderAll_text (text : List Char) (scope : Scope) :
    (renderAll host strict (text.map .text)).outcome scope = .ok text scope := by
  induction text with
  | nil =>
    rw [List.map_nil, renderAll]
    rfl
  | cons character text ih =>
    rw [List.map_cons, renderAll, render,
      Rendering.outcome_append_of_ok (Rendering.outcome_pure [character] scope), ih]
    rfl

end Template.Node

theorem Session.value_render (host : Host) (session : Session) (text : String) :
    (session.render host text).value =
      (((Template.Node.renderAll host session.strict (Template.parse text.toList)).outcome
          session.scope).result.map String.ofList,
        { session with
          scope := ((Template.Node.renderAll host session.strict
            (Template.parse text.toList)).outcome session.scope).scope }) := rfl

end Stencil
