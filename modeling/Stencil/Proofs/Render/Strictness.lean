import Stencil.Proofs.Render.Misfit
import Stencil.Proofs.Render.Relation

/-!
# Strict rendering stops at the first misfit

A strict rendering and a lenient one of the same template go together up to the first
condition whose literal does not fit.  There the strict one fails, while the lenient one
takes the condition to be false and goes on, perhaps to a malformed part, or to further
misfits.  Where there is no misfit the two are the same computation
(`Rendering.StopsAtMisfit`).
-/

set_option autoImplicit false

namespace Stencil

namespace Rendering

variable {α β : Type}

/-- The first rendering is the second one, stopped at the first misfit that the second one notes. -/
structure StopsAtMisfit (strict lenient : Rendering α) : Prop where
  agrees : ∀ scope, (lenient scope).Fits → strict scope = lenient scope
  fails : ∀ scope misfit later, (lenient scope).misfits = misfit :: later →
    (strict.outcome scope).result = .error misfit.error

namespace StopsAtMisfit

/-- A rendering that notes no misfit stops at none. -/
theorem of_fits {rendering : Rendering α} (fits : ∀ scope, (rendering scope).Fits) :
    StopsAtMisfit rendering rendering where
  agrees := fun scope _ => rfl
  fails := by
    intro scope misfit later noted
    rw [fits scope] at noted
    cases noted

theorem andThen {strict lenient : Rendering α} {nextStrict nextLenient : α → Rendering β}
    (stops : StopsAtMisfit strict lenient)
    (stopsNext : ∀ answer, StopsAtMisfit (nextStrict answer) (nextLenient answer)) :
    StopsAtMisfit (strict.andThen nextStrict) (lenient.andThen nextLenient) where
  agrees := by
    intro scope fits
    rw [Noted.Fits, Rendering.andThen, Noted.misfits_bind, List.append_eq_nil_iff] at fits
    obtain ⟨fitsFirst, fitsNext⟩ := fits
    rw [Rendering.andThen, Rendering.andThen, stops.agrees scope fitsFirst]
    refine Noted.bind_congr ?_
    generalize (lenient scope).value = reached at fitsNext ⊢
    obtain ⟨result, after⟩ := reached
    cases result with
    | error error => rfl
    | ok answer => exact (stopsNext answer).agrees after fitsNext
  fails := by
    intro scope misfit later noted
    rw [Rendering.andThen, Noted.misfits_bind] at noted
    rw [outcome_andThen]
    cases first : (lenient scope).misfits with
    | cons earlier others =>
      -- the first part stops, and what follows it is not reached
      rw [first, List.cons_append, List.cons.injEq] at noted
      rw [stops.fails scope earlier others first, noted.1]
      rfl
    | nil =>
      rw [first, List.nil_append] at noted
      rw [outcome, stops.agrees scope first]
      cases reached : (lenient scope).value with
      | mk result after =>
        rw [reached] at noted
        cases result with
        | error error => cases noted
        | ok answer => exact (stopsNext answer).fails after misfit later noted

theorem binding {strict lenient : Rendering α} (stops : StopsAtMisfit strict lenient)
    (name : String) (value : Value) :
    StopsAtMisfit (Rendering.binding name value strict) (Rendering.binding name value lenient) where
  agrees := by
    intro scope fits
    rw [Noted.Fits, Rendering.binding, Noted.misfits_bind, List.append_eq_nil_iff] at fits
    rw [Rendering.binding, Rendering.binding, stops.agrees _ fits.1]
  fails := by
    intro scope misfit later noted
    rw [Rendering.binding, Noted.misfits_bind, Noted.misfits_pure, List.append_nil] at noted
    rw [outcome_binding]
    exact stops.fails _ misfit later noted

end StopsAtMisfit

theorem stopsAtMisfit_check (host : Host) (condition : Condition) :
    StopsAtMisfit (condition.check host true) (condition.check host false) where
  agrees := by
    intro scope fits
    rw [Noted.Fits, Condition.misfits_check, Option.toList_eq_nil_iff] at fits
    exact Condition.check_strict_of_fits fits
  fails := by
    intro scope misfit later noted
    rw [Condition.misfits_check] at noted
    rw [Condition.outcome_check]
    cases found : (scope.resolve host condition.path).value.1 with
    | none =>
      rw [found] at noted
      cases noted
    | some left =>
      simp only [found, Condition.misfit?] at noted
      simp only [Condition.verdict]
      cases compared : left.compareWith condition.literal with
      | ordered ordering => simp [compared] at noted
      | unordered => simp [compared] at noted
      | inconvertible kind =>
        simp only [compared, Option.toList_some, List.cons.injEq] at noted
        rw [← noted.1]
        rfl

theorem closedTogether_stopsAtMisfit (host : Host) :
    ClosedTogether host true host false StopsAtMisfit where
  answer := fun answer => .of_fits fun scope => Noted.fits_pure _
  fault := by
    intro flaw tail
    rw [Template.Node.render, Template.Node.render]
    exact .of_fits fun scope => Noted.fits_pure _
  display := by
    intro path
    rw [Template.Node.render, Template.Node.render]
    exact .of_fits fun scope => (Scope.fits_display host scope path).bind (Noted.fits_pure _)
  directive := by
    intro keyword
    rw [Template.Node.render, Template.Node.render]
    exact .of_fits fun scope => (Noted.fits_note rfl).bind (Noted.fits_pure _)
  elements := by
    intro source
    refine .of_fits fun scope => (Scope.fits_resolve host scope source).bind ?_
    dsimp only
    split
    · exact Noted.fits_pure _
    · exact (Noted.fits_note rfl).bind (Noted.fits_pure _)
  check := stopsAtMisfit_check host
  andThen := StopsAtMisfit.andThen
  binding := fun name value stops => stops.binding name value

end Rendering

theorem Template.Node.stopsAtMisfit_renderAll (host : Host) (nodes : List Node) :
    Rendering.StopsAtMisfit (renderAll host true nodes) (renderAll host false nodes) :=
  (Rendering.closedTogether_stopsAtMisfit host).renderAll nodes

/-- A condition without a value at its path, or with one that has no order, has no misfit. -/
theorem Condition.misfit?_of_orderless {condition : Condition} {found : Option Value}
    (orderless : ∀ left, found = some left → left = .null ∨ (∃ items, left = .list items) ∨
      (∃ entries, left = .map entries) ∨ ∃ object, left = .object object) :
    condition.misfit? found = none := by
  cases found with
  | none => rfl
  | some left =>
    rcases orderless left rfl with rfl | ⟨items, rfl⟩ | ⟨entries, rfl⟩ | ⟨object, rfl⟩ <;> rfl

namespace Session

/-- A session with conditions of one sort. -/
def withStrict (session : Session) (strict : Bool) : Session :=
  { session with strict }

/-- **Strict rendering is lenient rendering up to the first misfit.**  A lenient rendering notes, in
order, the misfits of the conditions that it comes to.  If there are none, the strict rendering ends
in the same way and leaves the same scope; otherwise it fails with the first of them.  A condition
whose path leads nowhere, or to a value without an order, is the same whether it is strict or
not. -/
theorem render_withStrict (host : Host) (session : Session) (text : String) :
    (∀ (condition : Condition) (scope : Scope), (condition.check host false scope).misfits =
      (condition.misfit? (scope.resolve host condition.path).value.1).toList) ∧
    (let lenient := (session.withStrict false).render host text
     let strict := (session.withStrict true).render host text
     match lenient.misfits with
     | [] => strict.value.1 = lenient.value.1 ∧ strict.value.2.scope = lenient.value.2.scope
     | misfit :: _ => strict.value.1 = .error (.condition misfit.literal misfit.kind)) ∧
    ∀ (condition : Condition) (scope : Scope),
      (∀ left, (scope.resolve host condition.path).value.1 = some left →
        left = .null ∨ (∃ items, left = .list items) ∨ (∃ entries, left = .map entries) ∨
          ∃ object, left = .object object) →
      condition.check host true scope = condition.check host false scope := by
  refine ⟨Condition.misfits_check host, ?_, fun condition scope orderless =>
    Condition.check_strict_of_fits (Condition.misfit?_of_orderless orderless)⟩
  intro lenient strict
  have stops := Template.Node.stopsAtMisfit_renderAll host (Template.parse text.toList)
  have noted : lenient.misfits =
      (Template.Node.renderAll host false (Template.parse text.toList) session.scope).misfits :=
    (Noted.misfits_bind _ _).trans (List.append_nil _)
  cases listed : lenient.misfits with
  | nil =>
    have same := stops.agrees session.scope (noted.symm.trans listed)
    have outcome : (Template.Node.renderAll host true (Template.parse text.toList)).outcome
        session.scope =
        (Template.Node.renderAll host false (Template.parse text.toList)).outcome session.scope :=
      congrArg Noted.value same
    constructor
    · exact congrArg (fun outcome => outcome.result.map String.ofList) outcome
    · exact congrArg Outcome.scope outcome
  | cons misfit later =>
    have fails := stops.fails session.scope misfit later (noted.symm.trans listed)
    exact congrArg (Except.map String.ofList) fails

/-- The lenient rendering goes on behind the misfit, up to a variable that is not closed. -/
example :
    let text := "\x7b% if this == one %\x7d\x7b% endif %\x7d\x7b\x7b y"
    let session := Session.new .empty (.int 1)
    ((session.withStrict false).render .empty text).value.1 =
        .error (.malformed "expected `\x7d\x7d`" "\x7b\x7b y") ∧
      ((session.withStrict true).render .empty text).value.1 = .error (.condition "one" .int) := by
  decide +kernel

end Session

end Stencil
