import Stencil.Proofs.Render.Transparency
import Stencil.Session

/-!
# What a session keeps cannot be seen

A session is used by calls: it renders, resolves and shows, names are bound and taken
away, and conditions are made strict or lenient, in any order.  Beside it runs its
*view*, which has the root value, the bindings and the strictness and keeps
nothing else: it looks paths up anew each time, and renders in a session that it
makes for that one rendering.

As long as the host stays as it is, no run of calls tells the two apart
(`Session.answers_eq_view`).  The session is coherent all along and stands for its
view (`Session.StandsFor`); one call keeps that and is answered alike.
-/

set_option autoImplicit false

namespace Stencil.Session

open Scope (Coherent lookup takeBinding)

/-! ## Calls and answers -/

/-- What can be asked of a session. -/
inductive Call
  | render (text : String)
  | resolve (text : String)
  | display (text : String)
  | push (name : String) (value : Value)
  | pop (name : String) (value : Value)
  | setStrict (strict : Bool)

/-- What a call gives back. -/
inductive Answer
  | rendered (result : Except Error String)
  | found (value? : Option Value)
  | shown (text : String)
  | popped (value? : Option Value)
  | done

/-- The session with another scope. -/
def withScope (session : Session) (scope : Scope) : Session :=
  { session with scope }

/-- The answer of a session to a call, and the session afterwards. -/
def perform (host : Host) (session : Session) : Call → Answer × Session
  | .render text =>
    let rendered := (session.render host text).value
    (.rendered rendered.1, rendered.2)
  | .resolve text =>
    let resolved := (session.scope.resolve host text).value
    (.found resolved.1, session.withScope resolved.2)
  | .display text =>
    let displayed := (session.scope.display host text).value
    (.shown displayed.1, session.withScope displayed.2)
  | .push name value => (.done, session.withScope (session.scope.push name value))
  | .pop name value =>
    let popped := session.scope.pop name value
    (.popped popped.1, session.withScope popped.2)
  | .setStrict strict => (.done, { session with strict })

/-- The answers of a session to calls one after the other. -/
def answers (host : Host) (session : Session) : List Call → List Answer
  | [] => []
  | call :: calls =>
    (session.perform host call).1 :: answers host (session.perform host call).2 calls

/-! ## Views -/

/-- What a session is about, without anything kept. -/
structure View where
  root : Value
  /-- The bindings of local names, the most recent first. -/
  locals : List (String × Value)
  strict : Bool

namespace View

/-- The view of a new session. -/
def new (root : Value) : View :=
  ⟨root, [], false⟩

/-- A new session of the root value in which the same names have been bound in the same order. -/
def session (host : Host) (view : View) : Session :=
  ⟨view.locals.foldr (fun binding scope => scope.push binding.1 binding.2) (.new host view.root),
    view.strict⟩

/-- The answer of a view to a call, and the view afterwards. -/
def perform (host : Host) (view : View) : Call → Answer × View
  | .render text => (.rendered ((view.session host).render host text).value.1, view)
  | .resolve text => (.found (lookup host view.root view.locals (Text.trim text.toList)), view)
  | .display text =>
    let found := lookup host view.root view.locals (Text.trim text.toList)
    (.shown ((found.map host.display).getD ""), view)
  | .push name value => (.done, { view with locals := (name, value) :: view.locals })
  | .pop name value =>
    match takeBinding name value view.locals with
    | some (taken, others) => (.popped (some taken), { view with locals := others })
    | none => (.popped none, view)
  | .setStrict strict => (.done, { view with strict })

/-- The answers of a view to calls one after the other. -/
def answers (host : Host) (view : View) : List Call → List Answer
  | [] => []
  | call :: calls => (view.perform host call).1 :: answers host (view.perform host call).2 calls

end View

/-! ## Sessions and their views -/

/-- A session with a view, and nothing kept that would not be made anew. -/
structure StandsFor (host : Host) (session : Session) (view : View) : Prop where
  coherent : Coherent host session.scope
  root : session.scope.value = view.root
  locals : session.scope.locals = view.locals
  strict : session.strict = view.strict

theorem standsFor_new (host : Host) (root : Value) : StandsFor host (new host root) (.new root) :=
  ⟨.new root, rfl, rfl, rfl⟩

/-- The session that a view makes for one rendering stands for it. -/
theorem standsFor_session (host : Host) (view : View) :
    StandsFor host (view.session host) view := by
  obtain ⟨root, locals, strict⟩ := view
  induction locals with
  | nil => exact ⟨.new root, rfl, rfl, rfl⟩
  | cons binding locals ih =>
    exact ⟨ih.coherent.push binding.1 binding.2, ih.root,
      congrArg (binding :: ·) ih.locals, rfl⟩

namespace StandsFor

variable {host : Host} {session : Session} {view : View}

/-- A session stands for the same view with another coherent scope of its value and bindings. -/
theorem withScope (stands : StandsFor host session view) {after : Scope}
    (coherent : Coherent host after) (agrees : session.scope.Agrees after) :
    StandsFor host (session.withScope after) view :=
  ⟨coherent, agrees.value.trans stands.root, agrees.locals.trans stands.locals, stands.strict⟩

/-- Sessions of one view render alike. -/
theorem result_render (stands : StandsFor host session view) {other : Session}
    (standsOther : StandsFor host other view) (text : String) :
    (session.render host text).value.1 = (other.render host text).value.1 := by
  have agrees : session.scope.Agrees other.scope :=
    ⟨standsOther.root.trans stands.root.symm, standsOther.locals.trans stands.locals.symm⟩
  have strict : session.strict = other.strict := stands.strict.trans standsOther.strict.symm
  have transparent := Template.Node.transparent_renderAll host other.strict
    (Template.parse text.toList)
  rw [value_render, value_render, strict,
    transparent.result stands.coherent standsOther.coherent agrees]

theorem value_resolve (stands : StandsFor host session view) (text : String) :
    (session.scope.resolve host text).value.1 =
      lookup host view.root view.locals (Text.trim text.toList) := by
  rw [stands.coherent.value_resolve, stands.root, stands.locals]

/-- A call is answered alike by a session and by its view. -/
theorem answer_perform (stands : StandsFor host session view) (call : Call) :
    (session.perform host call).1 = (view.perform host call).1 := by
  cases call with
  | render text =>
    exact congrArg Answer.rendered (stands.result_render (standsFor_session host view) text)
  | resolve text => exact congrArg Answer.found (stands.value_resolve text)
  | display text =>
    simp only [perform, View.perform, Scope.value_display, stands.value_resolve]
  | push name value => rfl
  | pop name value =>
    simp only [perform, View.perform, Scope.pop, stands.locals]
    cases takeBinding name value view.locals <;> rfl
  | setStrict strict => rfl

/-- After a call the session stands for the view after the call. -/
theorem after_perform (stands : StandsFor host session view) (call : Call) :
    StandsFor host (session.perform host call).2 (view.perform host call).2 := by
  cases call with
  | render text =>
    have transparent := Template.Node.transparent_renderAll host session.strict
      (Template.parse text.toList)
    simp only [perform, View.perform, value_render]
    exact stands.withScope (transparent.coherent stands.coherent)
      (transparent.restores session.scope)
  | resolve text =>
    exact stands.withScope (stands.coherent.resolve text) (Scope.agrees_resolve host _ text)
  | display text =>
    exact stands.withScope (stands.coherent.display text) (Scope.agrees_display host _ text)
  | push name value =>
    exact ⟨stands.coherent.push name value, stands.root,
      congrArg ((name, value) :: ·) stands.locals, stands.strict⟩
  | pop name value =>
    cases taken : takeBinding name value view.locals with
    | some result =>
      obtain ⟨bound, others⟩ := result
      have popped : session.scope.pop name value =
          (some bound, { session.scope with locals := others }) := by
        rw [Scope.pop, stands.locals, taken]
      simp only [perform, View.perform, popped, taken]
      exact ⟨stands.coherent.of_locals others, stands.root, rfl, stands.strict⟩
    | none =>
      have popped : session.scope.pop name value = (none, session.scope) := by
        rw [Scope.pop, stands.locals, taken]
      simp only [perform, View.perform, popped, taken]
      exact stands
  | setStrict strict => exact ⟨stands.coherent, stands.root, stands.locals, rfl⟩

end StandsFor

/-- **What a session keeps cannot be seen.**  From its creation on, a session answers every run of
calls as its view does, which looks every path up in the root value with the bindings alone and
renders every text in a new session of that value with those bindings. -/
theorem answers_eq_view (host : Host) (root : Value) (calls : List Call) :
    (new host root).answers host calls = (View.new root).answers host calls := by
  have agree : ∀ (session : Session) (view : View), StandsFor host session view →
      session.answers host calls = view.answers host calls := by
    induction calls with
    | nil => exact fun session view stands => rfl
    | cons call calls ih =>
      intro session view stands
      rw [answers, View.answers, stands.answer_perform call, ih _ _ (stands.after_perform call)]
  exact agree _ _ (standsFor_new host root)

end Stencil.Session
