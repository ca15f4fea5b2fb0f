import Stencil.Accessor.Snapshot
import Stencil.Proofs.Accessor.Tables
import Stencil.Proofs.Host.Alike

/-!
# Accessors and what is held

What an accessor reads of an object it reads by way of `Host.readable`, and what it
writes by way of `Host.writable`.  So its uses are isolated from what is held
(`Accessor.isolated_useAbove`).  While an object is held, its instance members refuse to
be written and its instance methods to be called (`Accessor.refusesWrites_of_held`).
Static members never ask how the object is held (`Accessor.servesStatics`).
-/

set_option autoImplicit false

namespace Stencil

/-! ## Readings of alike hosts -/

namespace Host.Alike

variable {left right : Host} (alike : left.Alike right)
include alike

theorem accessor_new : Accessor.new left = Accessor.new right := by
  funext object
  rw [Accessor.new, alike.typeOf, Accessor.new]

theorem read : Accessor.read left = Accessor.read right := by
  funext object located
  simp only [Accessor.read, alike.surroundings, alike.staticSlots, alike.readable]

theorem get : Accessor.get left = Accessor.get right := by
  funext accessor sort search name
  rw [Accessor.get, alike.read, Accessor.get]

theorem propertyOrField : Accessor.propertyOrField left = Accessor.propertyOrField right := by
  funext accessor name
  rw [Accessor.propertyOrField, alike.get, Accessor.propertyOrField]

theorem members : Accessor.members left = Accessor.members right := by
  have add : Accessor.addMember left = Accessor.addMember right := by
    funext object search steps declaration entries member
    rw [Accessor.addMember, alike.read, Accessor.addMember]
  have addAll : Accessor.addMembers left = Accessor.addMembers right := by
    funext object search sort entries level
    rw [Accessor.addMembers, add, Accessor.addMembers]
  funext accessor search
  rw [Accessor.members, addAll, Accessor.members]

end Host.Alike

namespace Accessor

open Host (Isolated isolated_of_look isolated_onPart isolated_onStatics)

/-! ## Uses of an accessor -/

/-- What can be asked of an accessor. -/
inductive Use
  | get (sort : MemberSort) (search : Search) (name : String)
  | set (sort : MemberSort) (search : Search) (name : String) (value : Value)
  | invoke (search : Search) (name : String) (arguments : List Value)
  | members (search : Search)

/-- What an accessor gives back. -/
inductive Answer
  | found (value? : Option Value)
  | taken (taken : Bool)
  | returned (result? : Option Value)
  | copied (entries : Entries Value)

/-- The answer of an accessor to a use of it, with the host and the accessor afterwards. -/
def use (host : Host) (accessor : Accessor) : Use → Noted ((Answer × Host) × Accessor)
  | .get sort search name => do
    let (found, after) ← accessor.get host sort search name
    return ((.found found, host), after)
  | .set sort search name value => do
    let (taken, written, after) ← accessor.set host sort search name value
    return ((.taken taken, written), after)
  | .invoke search name arguments => do
    let (result, written, after) ← accessor.invoke host search name arguments
    return ((.returned result, written), after)
  | .members search => pure ((.copied (members host accessor search), host), accessor)

/-! ## Uses are isolated -/

theorem isolated_write (object : Handle) (located : Located Member) (value : Value) :
    Isolated fun host => write host object located value := by
  obtain ⟨steps, declaration, member⟩ := located
  cases setter : member.set? with
  | none => simpa only [write, setter] using isolated_of_look (fun _ => false) fun _ => rfl
  | some set =>
    simp only [write, setter]
    split
    · exact isolated_onStatics declaration fun surroundings => set surroundings value
    split
    · exact isolated_onPart object steps false fun surroundings => set surroundings value
    · exact isolated_of_look (fun _ => false) fun _ => rfl

theorem isolated_call (object : Handle) (located : Located Method) (arguments : List Value) :
    Isolated fun host => call host object located arguments := by
  obtain ⟨steps, declaration, method⟩ := located
  simp only [call]
  split
  · exact isolated_onStatics declaration fun surroundings slots =>
      let called := method.call surroundings arguments slots
      (some called.1, called.2)
  split
  · exact isolated_onPart object steps none fun surroundings slots =>
      let called := method.call surroundings arguments slots
      (some called.1, called.2)
  · exact isolated_of_look (fun _ => none) fun _ => rfl

theorem value_set (host : Host) (accessor : Accessor) (sort : MemberSort) (search : Search)
    (name : String) (value : Value) :
    (accessor.set host sort search name value).value =
      let written :=
        match accessor.member? sort search name with
        | some located => write host accessor.object located value
        | none => (false, host)
      (written.1, written.2, (accessor.consulting search
        (fun declaration => (declaration.member? sort search name).isSome)
        (Link.index sort)).value) := by
  simp only [set, Noted.value_bind]
  cases accessor.member? sort search name <;> rfl

theorem value_invoke (host : Host) (accessor : Accessor) (search : Search) (name : String)
    (arguments : List Value) :
    (accessor.invoke host search name arguments).value =
      let kinds := arguments.map host.kind
      let called :=
        match accessor.method? search name kinds with
        | some located => call host accessor.object located arguments
        | none => (none, host)
      (called.1, called.2, (accessor.consulting search
        (fun declaration => (declaration.method? search name kinds).isSome)
        Link.indexMethods).value) := by
  simp only [invoke, Noted.value_bind]
  cases accessor.method? search name (arguments.map host.kind) <;> rfl

theorem isolated_set (accessor : Accessor) (sort : MemberSort) (search : Search) (name : String)
    (value : Value) :
    Isolated fun host =>
      let written := (accessor.set host sort search name value).value
      ((written.1, written.2.2), written.2.1) := by
  simp only [value_set]
  cases accessor.member? sort search name with
  | none => exact (isolated_of_look (fun _ => false) fun _ => rfl).map (·, _)
  | some located => exact (isolated_write accessor.object located value).map (·, _)

theorem isolated_invoke (accessor : Accessor) (search : Search) (name : String)
    (arguments : List Value) :
    Isolated fun host =>
      let called := (accessor.invoke host search name arguments).value
      ((called.1, called.2.2), called.2.1) := by
  have ofKinds (kinds : List Kind) : Isolated fun host =>
      let called :=
        match accessor.method? search name kinds with
        | some located => call host accessor.object located arguments
        | none => (none, host)
      ((called.1, (accessor.consulting search
        (fun declaration => (declaration.method? search name kinds).isSome)
        Link.indexMethods).value), called.2) := by
    cases accessor.method? search name kinds with
    | none => exact (isolated_of_look (fun _ => none) fun _ => rfl).map (·, _)
    | some located => exact (isolated_call accessor.object located arguments).map (·, _)
  simp only [value_invoke]
  exact (isolated_of_look (fun host => arguments.map host.kind)
    fun alike => by rw [alike.kind]).andThen ofKinds

/-- A use of an accessor is isolated from what the host holds. -/
theorem isolated_use (accessor : Accessor) (use : Use) :
    Isolated fun host =>
      let used := (accessor.use host use).value
      ((used.1.1, used.2), used.1.2) := by
  cases use with
  | get sort search name =>
    exact isolated_of_look
      (fun host => ((.found (accessor.get host sort search name).value.1 : Answer),
        (accessor.get host sort search name).value.2)) fun alike => by rw [alike.get]
  | set sort search name value =>
    exact (isolated_set accessor sort search name value).map (Prod.map Answer.taken id)
  | invoke search name arguments =>
    exact (isolated_invoke accessor search name arguments).map (Prod.map Answer.returned id)
  | members search =>
    exact isolated_of_look (fun host => ((.copied (members host accessor search) : Answer),
      accessor)) fun alike => by rw [alike.members]

/-- The answer of the accessor so many steps up, if there is one. -/
def useAbove (host : Host) (accessor : Accessor) (steps : Nat) (use : Use) :
    (Option Answer × Accessor) × Host :=
  match accessor.above (fun accessor => accessor.use host use) steps with
  | none => ((none, accessor), host)
  | some noted => ((some noted.value.1.1, noted.value.2), noted.value.1.2)

theorem withParent_of_parent? {accessor bound : Accessor}
    (parent : accessor.parent? = some bound) : accessor.withParent bound = accessor := by
  unfold parent? at parent
  split at parent
  · cases parent
  · next ancestors =>
    obtain rfl := Option.some.inj parent
    simp [withParent, links, ← ancestors]

theorem useAbove_succ {accessor bound : Accessor} (parent : accessor.parent? = some bound)
    (host : Host) (steps : Nat) (use : Use) :
    useAbove host accessor (steps + 1) use =
      (Prod.map id accessor.withParent (useAbove host bound steps use).1,
        (useAbove host bound steps use).2) := by
  simp only [useAbove, above, parent]
  cases bound.above (fun accessor => accessor.use host use) steps with
  | none => simp only [Option.map_none, Prod.map, withParent_of_parent? parent, id_eq]
  | some noted => rfl

theorem isolated_useAbove (accessor : Accessor) (steps : Nat) (use : Use) :
    Isolated fun host => useAbove host accessor steps use := by
  induction steps generalizing accessor with
  | zero => exact (isolated_use accessor use).map (Prod.map some id)
  | succ steps ih =>
    cases parent : accessor.parent? with
    | none =>
      simp only [useAbove, above, parent]
      exact isolated_of_look (fun _ => (none, accessor)) fun _ => rfl
    | some bound =>
      simp only [useAbove_succ parent]
      exact (ih bound).map (Prod.map id accessor.withParent)

/-! ## Objects that are held -/

/-- The instance members of an object refuse to be written and its instance methods to be called,
and nothing of the host changes. -/
structure RefusesWrites (accessor : Accessor) (host : Host) : Prop where
  set : ∀ {sort search name located}, accessor.member? sort search name = some located →
    located.found.isStatic = false → ∀ value,
      (accessor.set host sort search name value).value.1 = false ∧
        (accessor.set host sort search name value).value.2.1 = host
  invoke : ∀ {search name arguments located},
    accessor.method? search name (arguments.map host.kind) = some located →
    located.found.isStatic = false →
      (accessor.invoke host search name arguments).value.1 = none ∧
        (accessor.invoke host search name arguments).value.2.1 = host

theorem refusesWrites_of_held {host : Host} {accessor : Accessor}
    (held : host.borrowOf accessor.object ≠ .free) : accessor.RefusesWrites host where
  set := by
    intro sort search name located found ofInstance value
    have closed : host.writable accessor.object located.steps = none := if_neg held
    have refused : write host accessor.object located value = (false, host) := by
      simp only [write, ofInstance, closed, Bool.false_eq_true, if_false, ite_self]
      cases located.found.set? <;> rfl
    simp only [value_set, found, refused, and_self]
  invoke := by
    intro search name arguments located found ofInstance
    have closed : host.writable accessor.object located.steps = none := if_neg held
    have refused : call host accessor.object located arguments = (none, host) := by
      simp only [call, ofInstance, closed, Bool.false_eq_true, if_false, ite_self]
    simp only [value_invoke, found, refused, and_self]

/-- The static members of an object are read from the static slots of their type, written to them
and called on them. -/
structure ServesStatics (accessor : Accessor) (host : Host) : Prop where
  get : ∀ {sort search name located}, accessor.member? sort search name = some located →
    located.found.isStatic = true →
      (accessor.get host sort search name).value.1 =
        some (located.found.get host.surroundings (host.staticSlots located.declaration))
  set : ∀ {sort search name located set}, accessor.member? sort search name = some located →
    located.found.isStatic = true → located.found.set? = some set → ∀ value,
      let written := set host.surroundings value (host.staticSlots located.declaration)
      (accessor.set host sort search name value).value.1 = written.1 ∧
        (accessor.set host sort search name value).value.2.1 =
          host.withStatics located.declaration written.2
  invoke : ∀ {search name arguments located},
    accessor.method? search name (arguments.map host.kind) = some located →
    located.found.isStatic = true →
      let called := located.found.call host.surroundings arguments
        (host.staticSlots located.declaration)
      (accessor.invoke host search name arguments).value.1 = some called.1 ∧
        (accessor.invoke host search name arguments).value.2.1 =
          host.withStatics located.declaration called.2

/-- Static members are served however the object is held. -/
theorem servesStatics (accessor : Accessor) (host : Host) : accessor.ServesStatics host where
  get := by
    intro sort search name located found static
    rw [value_get, valueOf?, found, Option.bind_some, read, if_pos static]
  set := by
    intro sort search name located set found static setter value
    simp only [value_set, found, write, setter, static, if_true, and_self]
  invoke := by
    intro search name arguments located found static
    simp only [value_invoke, found, call, static, if_true, and_self]

end Accessor

end Stencil
