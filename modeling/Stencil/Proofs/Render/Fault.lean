import Stencil.Proofs.Render.Closure

/-!
# What a rendering can fail with

A rendering fails where it reaches a malformed part, and, where conditions are
strict, at a literal that does not fit; there is no other failure
(`Template.Failure`).  An error of the first sort carries the text of the malformed
part.  That text is a piece of the template, and fails with the same error when it is
rendered on its own, in every session (`Session.error_render`).
-/

set_option autoImplicit false

namespace Stencil

/-- A condition fails only where conditions are strict. -/
theorem Condition.error_of_verdict {strict : Bool} {condition : Condition} {found : Option Value}
    {error : Error} (fails : condition.verdict strict found = .error error) :
    strict = true ∧ ∃ kind, error = .condition condition.literal kind := by
  cases found with
  | none => cases fails
  | some left =>
    rw [verdict] at fails
    cases compared : left.compareWith condition.literal with
    | ordered ordering => simp [compared] at fails
    | unordered => simp [compared] at fails
    | inconvertible kind =>
      cases strict with
      | false => simp [compared] at fails
      | true => exact ⟨rfl, kind, by simpa [compared, eq_comm] using fails⟩

namespace Rendering

variable {α β : Type} {allowed : Error → Prop}

/-- Every failure of a rendering, in any scope, is one of those allowed. -/
def FailsOnly (allowed : Error → Prop) (rendering : Rendering α) : Prop :=
  ∀ scope error, (rendering.outcome scope).result = .error error → allowed error

theorem failsOnly_of_ok {rendering : Rendering α}
    (succeeds : ∀ scope, ∃ answer after, rendering.outcome scope = .ok answer after) :
    rendering.FailsOnly allowed := by
  intro scope error fails
  obtain ⟨answer, after, outcome⟩ := succeeds scope
  rw [outcome] at fails
  cases fails

theorem FailsOnly.andThen {first : Rendering α} {next : α → Rendering β}
    (failsOnly : first.FailsOnly allowed)
    (failsOnlyNext : ∀ answer, (next answer).FailsOnly allowed) :
    (first.andThen next).FailsOnly allowed := by
  intro scope error fails
  rw [outcome_andThen] at fails
  cases firstly : (first.outcome scope).result with
  | error earlier =>
    simp only [firstly, Outcome.failed, Except.error.injEq] at fails
    exact failsOnly scope error (fails ▸ firstly)
  | ok answer =>
    simp only [firstly] at fails
    exact failsOnlyNext answer _ error fails

theorem FailsOnly.binding {body : Rendering α} (failsOnly : body.FailsOnly allowed)
    (name : String) (value : Value) : (binding name value body).FailsOnly allowed := by
  intro scope error fails
  rw [outcome_binding] at fails
  exact failsOnly (scope.push name value) error fails

/-- Renderings fail only with the malformed parts that they reach and with conditions. -/
theorem closed_failsOnly (host : Host) {strict : Bool}
    (conditions : strict = true → ∀ literal kind, allowed (.condition literal kind)) :
    Closed host strict (fun flaw tail => allowed (Template.Node.faultError flaw tail))
      (FailsOnly allowed) where
  answer := fun answer => failsOnly_of_ok fun scope => ⟨answer, scope, rfl⟩
  fault := by
    intro flaw tail isAllowed scope error fails
    rw [Template.Node.outcome_render_fault] at fails
    obtain rfl : Template.Node.faultError flaw tail = error := Except.error.inj fails
    exact isAllowed
  display := fun path => failsOnly_of_ok fun scope =>
    ⟨_, _, Template.Node.outcome_render_variable host strict path scope⟩
  directive := fun keyword => failsOnly_of_ok fun scope =>
    ⟨_, _, Template.Node.outcome_render_directive host strict keyword scope⟩
  elements := fun source => failsOnly_of_ok fun scope =>
    ⟨_, _, outcome_elementsAt host source scope⟩
  check := by
    intro condition scope error fails
    rw [Condition.outcome_check] at fails
    obtain ⟨isStrict, kind, rfl⟩ := Condition.error_of_verdict fails
    exact conditions isStrict condition.literal kind
  andThen := FailsOnly.andThen
  binding := fun name value failsOnly => failsOnly.binding name value

end Rendering

/-- What rendering some nodes can fail with. -/
inductive Template.Failure (strict : Bool) (nodes : List Node) : Error → Prop
  | fault {flaw : Flaw} {tail : List Char} (inside : FaultIn flaw tail nodes) :
      Failure strict nodes (Node.faultError flaw tail)
  | condition (isStrict : strict = true) (literal : String) (kind : Kind) :
      Failure strict nodes (.condition literal kind)

theorem Template.Node.failsOnly_renderAll (host : Host) (strict : Bool) (nodes : List Node) :
    (renderAll host strict nodes).FailsOnly (Failure strict nodes) :=
  (Rendering.closed_failsOnly host .condition).renderAll nodes .fault

namespace Session

open Template (openVariable openTag parse)

/-- A text that is malformed from its start on fails in every session. -/
theorem render_of_parse_fault {text : String} {flaw : Template.Flaw} {tail : List Char}
    (read : parse text.toList = [.fault flaw tail]) (host : Host) (session : Session) :
    (session.render host text).value.1 = .error (Template.Node.faultError flaw tail) := by
  rw [value_render, read, Template.Node.outcome_renderAll_singleton,
    Template.Node.outcome_render_fault]
  rfl

/-- **A malformed part fails in the same way on its own.**  A rendering that fails does so with a
piece of its text that starts with an opening mark and fails with the same error in every session,
or, where conditions are strict, at a literal. -/
theorem error_render {host : Host} {session : Session} {text : String} {error : Error}
    (fails : (session.render host text).value.1 = .error error) :
    (∃ message tail, error = .malformed message tail ∧ tail.toList <:+: text.toList ∧
      (openVariable.text <+: tail.toList ∨ openTag.text <+: tail.toList) ∧
      ∀ (otherHost : Host) (other : Session),
        (other.render otherHost tail).value.1 = .error (.malformed message tail)) ∨
    session.strict = true ∧ ∃ literal kind, error = .condition literal kind := by
  rw [value_render] at fails
  have failed : ((Template.Node.renderAll host session.strict (parse text.toList)).outcome
      session.scope).result = .error error := by
    cases result : ((Template.Node.renderAll host session.strict (parse text.toList)).outcome
        session.scope).result with
    | ok output => simp [result, Except.map] at fails
    | error other => simpa [result, Except.map] using fails
  cases Template.Node.failsOnly_renderAll _ _ _ _ _ failed with
  | condition isStrict literal kind => exact .inr ⟨isStrict, literal, kind, rfl⟩
  | @fault flaw tail inside =>
    have recurs := inside.recurs
    refine .inl ⟨flaw.message, .ofList tail, rfl, ?_, ?_, fun otherHost other => ?_⟩
    · simpa using recurs.piece
    · simpa using recurs.opening
    · have read : parse (String.ofList tail).toList = [.fault flaw tail] := by
        simpa using recurs.again
      exact render_of_parse_fault read otherHost other

/-- A variable that is not closed inside a loop, whose end limits the text of the error. -/
theorem error_render_open_variable_in_loop :
    let text := "\x7b% foreach x in this %\x7d\x7b\x7b x\x7b% endfor %\x7d"
    let error := Error.malformed "expected `\x7d\x7d`" "\x7b\x7b x"
    ((new .empty (.list [.null])).render .empty text).value.1 = .error error ∧
    ((∃ message tail, error = .malformed message tail ∧ tail.toList <:+: text.toList ∧
      (openVariable.text <+: tail.toList ∨ openTag.text <+: tail.toList) ∧
      ∀ (otherHost : Host) (other : Session),
        (other.render otherHost tail).value.1 = .error (.malformed message tail)) ∨
    (new .empty (.list [.null])).strict = true ∧
      ∃ literal kind, error = .condition literal kind) := by
  intro text error
  have fails : ((new .empty (.list [.null])).render .empty text).value.1 = .error error := by
    decide +kernel
  exact ⟨fails, error_render fails⟩

end Session

end Stencil
