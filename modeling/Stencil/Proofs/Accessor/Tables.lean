import Stencil.Accessor.Basic

/-!
# Built tables do not matter

Reading a member by name can build tables of the types on the way, and the accessor
remembers which.  Accessors that differ in that alone find the same members and read
the same values (`Accessor.SameMembers`), and an accessor after a reading differs from
the one before it in nothing else (`Accessor.sameMembers_propertyOrField`).
-/

set_option autoImplicit false

namespace Stencil

theorem Link.declaration_index (sort : MemberSort) (link : Link) :
    (link.index sort).value.declaration = link.declaration := by
  cases sort with
  | field =>
    simp only [index]
    split <;> rfl
  | property =>
    simp only [index]
    split <;> rfl

/-- Consulting tables leaves the types as they are. -/
theorem declarations_consult {index : Link → Noted Link}
    (keeps : ∀ link, (index link).value.declaration = link.declaration) (inherited : Bool)
    (answers : Declaration → Bool) (links : List Link) :
    (consult inherited answers index links).value.map Link.declaration =
      links.map Link.declaration := by
  induction links with
  | nil => rfl
  | cons link rest ih =>
    simp only [consult, Noted.value_bind]
    split
    · simp only [Noted.value_pure, List.map_cons, keeps]
    · simp only [Noted.value_bind, Noted.value_pure, List.map_cons, keeps, ih]

namespace Accessor

/-- Two accessors of one object that are bound to one type. -/
structure SameMembers (left right : Accessor) : Prop where
  object : left.object = right.object
  steps : left.steps = right.steps
  declarations : left.declarations = right.declarations

namespace SameMembers

theorem refl (accessor : Accessor) : accessor.SameMembers accessor :=
  ⟨rfl, rfl, rfl⟩

theorem trans {left middle right : Accessor} (first : left.SameMembers middle)
    (second : middle.SameMembers right) : left.SameMembers right :=
  ⟨first.object.trans second.object, first.steps.trans second.steps,
    first.declarations.trans second.declarations⟩

end SameMembers

variable (host : Host)

/-- The value of the member that a search finds, tables left aside. -/
def valueOf? (accessor : Accessor) (sort : MemberSort) (search : Search) (name : String) :
    Option Value :=
  (accessor.member? sort search name).bind (read host accessor.object)

/-- The value of the property of a name, or else of the field. -/
def valueNamed? (accessor : Accessor) (name : String) : Option Value :=
  (accessor.valueOf? host .property .all name).or (accessor.valueOf? host .field .all name)

theorem SameMembers.valueOf?_eq {left right : Accessor} (same : left.SameMembers right)
    (sort : MemberSort) (search : Search) (name : String) :
    left.valueOf? host sort search name = right.valueOf? host sort search name := by
  rw [valueOf?, member?, same.steps, same.declarations, same.object, valueOf?, member?]

theorem SameMembers.valueNamed?_eq {left right : Accessor} (same : left.SameMembers right)
    (name : String) : left.valueNamed? host name = right.valueNamed? host name := by
  rw [valueNamed?, same.valueOf?_eq, same.valueOf?_eq, valueNamed?]

/-! ## Readings -/

theorem sameMembers_consulting (accessor : Accessor) (search : Search)
    (answers : Declaration → Bool) {index : Link → Noted Link}
    (keeps : ∀ link, (index link).value.declaration = link.declaration) :
    (accessor.consulting search answers index).value.SameMembers accessor := by
  have kept := declarations_consult keeps search.inherited answers accessor.links
  simp only [consulting, Noted.value_bind]
  cases consulted : (consult search.inherited answers index accessor.links).value with
  | nil => exact .refl accessor
  | cons bound ancestors =>
    rw [consulted] at kept
    exact ⟨rfl, rfl, kept⟩

theorem value_get (accessor : Accessor) (sort : MemberSort) (search : Search) (name : String) :
    (accessor.get host sort search name).value.1 = accessor.valueOf? host sort search name := rfl

theorem sameMembers_get (accessor : Accessor) (sort : MemberSort) (search : Search)
    (name : String) : (accessor.get host sort search name).value.2.SameMembers accessor :=
  accessor.sameMembers_consulting search _ (Link.declaration_index sort)

theorem value_propertyOrField (accessor : Accessor) (name : String) :
    (accessor.propertyOrField host name).value.1 = accessor.valueNamed? host name := by
  have same := accessor.sameMembers_get host .property .all name
  have found := accessor.value_get host .property .all name
  simp only [propertyOrField, Noted.value_bind]
  generalize (accessor.get host .property .all name).value = answer at same found
  obtain ⟨property, after⟩ := answer
  have property_eq : accessor.valueOf? host .property .all name = property := found.symm
  rw [valueNamed?, property_eq]
  cases property with
  | some value => rfl
  | none => exact same.valueOf?_eq host .field .all name

/-- Reading a member builds tables and changes nothing else. -/
theorem sameMembers_propertyOrField (accessor : Accessor) (name : String) :
    (accessor.propertyOrField host name).value.2.SameMembers accessor := by
  have same := accessor.sameMembers_get host .property .all name
  simp only [propertyOrField, Noted.value_bind]
  generalize (accessor.get host .property .all name).value = answer at same
  obtain ⟨property, after⟩ := answer
  cases property with
  | some value => exact same
  | none => exact (after.sameMembers_get host .field .all name).trans same

end Accessor

end Stencil
