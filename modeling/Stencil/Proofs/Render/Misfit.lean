import Stencil.Proofs.Render.Evaluation

/-!
# The misfits of a computation

A literal that cannot be read as the kind of the value it is compared with is a
*misfit*.  Where conditions are lenient, a misfit makes the condition false and is
noted.  The misfits of a computation are those that it notes, in order
(`Noted.misfits`).

Conditions are the only source of misfits: following a path notes none
(`Scope.fits_resolve`), and a lenient condition notes the misfit that it has, if it has
one (`Condition.misfits_check`).
-/

set_option autoImplicit false

namespace Stencil

/-- The misfit that an event tells of. -/
def Event.misfit? : Event → Option Misfit
  | .inconvertible condition kind => some ⟨condition.literal, kind⟩
  | _ => none

/-- The misfit of a condition with the value found at its path, if there is one. -/
def Condition.misfit? (condition : Condition) (found : Option Value) : Option Misfit :=
  match found with
  | none => none
  | some left =>
    match left.compareWith condition.literal with
    | .inconvertible kind => some ⟨condition.literal, kind⟩
    | _ => none

namespace Noted

variable {α β : Type}

/-- The misfits that a computation notes, in order. -/
def misfits (noted : Noted α) : List Misfit :=
  noted.events.filterMap Event.misfit?

@[simp]
theorem misfits_pure (value : α) : (pure value : Noted α).misfits = [] := rfl

@[simp]
theorem misfits_bind (noted : Noted α) (next : α → Noted β) :
    (noted >>= next).misfits = noted.misfits ++ (next noted.value).misfits := by
  rw [misfits, events_bind, List.filterMap_append, misfits, misfits]

@[simp]
theorem misfits_note (event : Event) : (note event).misfits = event.misfit?.toList := by
  rw [misfits, events_note, List.filterMap_cons, List.filterMap_nil]
  cases event.misfit? <;> rfl

/-- How a computation goes on depends on its value alone. -/
theorem bind_congr {noted : Noted α} {next other : α → Noted β}
    (same : next noted.value = other noted.value) : (noted >>= next) = (noted >>= other) := by
  change noted.andThen next = noted.andThen other
  rw [andThen, andThen, same]

/-- No misfit is noted. -/
def Fits (noted : Noted α) : Prop :=
  noted.misfits = []

theorem fits_pure (value : α) : (pure value : Noted α).Fits := rfl

theorem fits_note {event : Event} (harmless : event.misfit? = none) : (note event).Fits := by
  rw [Fits, misfits_note, harmless]
  rfl

theorem Fits.bind {noted : Noted α} {next : α → Noted β} (fits : noted.Fits)
    (fitsNext : (next noted.value).Fits) : (noted >>= next).Fits := by
  rw [Fits, misfits_bind, fits, fitsNext, List.append_nil]

end Noted

open Noted (fits_pure fits_note)

/-! ## Paths -/

theorem Link.fits_index (sort : MemberSort) (link : Link) : (link.index sort).Fits := by
  cases sort <;>
  · simp only [index]
    split
    · exact fits_pure link
    · exact (fits_note rfl).bind (fits_pure _)

theorem fits_consult (inherited : Bool) (answers : Declaration → Bool) {index : Link → Noted Link}
    (fits : ∀ link, (index link).Fits) (links : List Link) :
    (consult inherited answers index links).Fits := by
  induction links with
  | nil => exact fits_pure []
  | cons link rest ih =>
    refine (fits link).bind ?_
    split
    · exact fits_pure _
    · exact ih.bind (fits_pure _)

theorem Accessor.fits_get (host : Host) (accessor : Accessor) (sort : MemberSort) (search : Search)
    (name : String) : (accessor.get host sort search name).Fits := by
  have consulted (answers : Declaration → Bool) :
      (accessor.consulting search answers (Link.index sort)).Fits := by
    refine (fits_consult _ answers (Link.fits_index sort) accessor.links).bind ?_
    split <;> exact fits_pure _
  exact (consulted _).bind (fits_pure _)

theorem Accessor.fits_propertyOrField (host : Host) (accessor : Accessor) (name : String) :
    (accessor.propertyOrField host name).Fits := by
  refine (accessor.fits_get host .property .all name).bind ?_
  obtain ⟨property, after⟩ := (accessor.get host .property .all name).value
  cases property with
  | some value => exact fits_pure _
  | none => exact after.fits_get host .field .all name

namespace Scope

variable (host : Host)

theorem fits_member (scope : Scope) (name : String) : (scope.member host name).Fits := by
  rw [member]
  split
  · exact fits_pure _
  · split
    · exact fits_pure _
    · exact (Accessor.fits_propertyOrField host _ name).bind (fits_pure _)

theorem fits_child (scope : Scope) (name : String) : (scope.child host name).Fits := by
  rw [child]
  split
  · exact fits_pure _
  · exact (fits_note rfl).bind ((fits_member host scope name).bind (fits_pure _))

theorem fits_follow (path : Path) (scope : Scope) : (follow host path scope).Fits := by
  induction path generalizing scope with
  | this => exact fits_pure _
  | name name =>
    rw [follow]
    split
    · exact fits_pure _
    · exact fits_member host scope name
  | step name rest ih =>
    rw [follow]
    split
    · exact (ih _).bind (fits_pure _)
    · exact (fits_child host scope name).bind ((ih _).bind (fits_pure _))

theorem fits_resolve (scope : Scope) (text : String) : (scope.resolve host text).Fits := by
  refine (fits_follow host _ scope).bind ?_
  dsimp only
  split
  · exact (fits_note rfl).bind (fits_pure _)
  · exact fits_pure _

theorem fits_display (scope : Scope) (text : String) : (scope.display host text).Fits :=
  (fits_resolve host scope text).bind (fits_pure _)

end Scope

/-! ## Conditions -/

/-- A lenient condition notes its misfit, if it has one, and nothing else of the sort. -/
theorem Condition.misfits_check (host : Host) (condition : Condition) (scope : Scope) :
    (condition.check host false scope).misfits =
      (condition.misfit? (scope.resolve host condition.path).value.1).toList := by
  have fits := Scope.fits_resolve host scope condition.path
  rw [check, Noted.misfits_bind, fits, List.nil_append]
  obtain ⟨found, after⟩ := (scope.resolve host condition.path).value
  cases found with
  | none => rfl
  | some left =>
    simp only [misfit?]
    cases left.compareWith condition.literal <;> rfl

/-- A strict condition without a misfit is the lenient one. -/
theorem Condition.check_strict_of_fits {host : Host} {condition : Condition} {scope : Scope}
    (fits : condition.misfit? (scope.resolve host condition.path).value.1 = none) :
    condition.check host true scope = condition.check host false scope := by
  refine Noted.bind_congr ?_
  generalize (scope.resolve host condition.path).value = resolved at fits ⊢
  obtain ⟨found, after⟩ := resolved
  cases found with
  | none => rfl
  | some left =>
    simp only [misfit?] at fits
    dsimp only
    cases compared : left.compareWith condition.literal with
    | inconvertible kind => simp [compared] at fits
    | ordered ordering => rfl
    | unordered => rfl

end Stencil
