import Stencil.Host.Declaration
import Stencil.Value.Elements

/-!
# The host

The instances that values can point at, with their borrows, and the static slots
of their types.  An instance has one part for each type it descends from, its
concrete type first.

The host may hold an instance.  A shared hold keeps it from being written, an
exclusive one from being read as well.  A part is reached by stepping up from the
concrete type, and a step needs that the declaration it leaves fits the instance.
-/

set_option autoImplicit false

namespace Stencil

/-! ## Instances and their parts -/

/-- How an instance is held. -/
inductive Borrow
  | free
  | shared
  | exclusive
  deriving DecidableEq, Repr

/-- An instance of a host type. -/
structure Instance where
  type : HostType
  /-- The parts of the types it descends from, the concrete type first.  A missing part is empty. -/
  parts : List Slots
  borrow : Borrow

/-- The state of the host. -/
structure Host where
  instances : List Instance
  /-- The static slots of the types. -/
  statics : List Slots

/-- The part that belongs to the supertype so many steps up. -/
def HostType.view : HostType → List Slots → Nat → Option Slots
  | _, parts, 0 => some (parts.headD [])
  | .root, _, _ + 1 => none
  | .extend parent own, parts, steps + 1 => if own.fits then parent.view parts.tail steps else none

/-- The first hook up the chain of a type, run on the part of the type that declares it. -/
def HostType.firstHook {α : Type} (hook? : Declaration → Option (Slots → α)) :
    HostType → List Slots → Option α
  | .root, _ => none
  | .extend parent own, parts =>
    if own.fits then
      match hook? own with
      | some hook => some (hook (parts.headD []))
      | none => parent.firstHook hook? parts.tail
    else none

/-- The parts with one of them replaced. -/
def replacePart (slots : Slots) : List Slots → Nat → List Slots
  | parts, 0 => slots :: parts.tail
  | parts, position + 1 => parts.headD [] :: replacePart slots parts.tail position

/-! ## The state of the host -/

namespace Host

/-- A host without instances. -/
def empty : Host := ⟨[], []⟩

/-- The instance behind a handle. -/
def instance? (host : Host) (handle : Handle) : Option Instance :=
  host.instances[handle.index]?

/-- The concrete type of an object. -/
def typeOf (host : Host) (handle : Handle) : HostType :=
  match host.instance? handle with
  | some found => found.type
  | none => .root

/-- The name of the concrete type of an object. -/
def typeName (host : Host) (handle : Handle) : String :=
  (host.typeOf handle).name

/-- The kind of a value. -/
def kind (host : Host) (value : Value) : Kind :=
  value.kind host.typeName

/-- The static slots of a type. -/
def staticSlots (host : Host) (declaration : Declaration) : Slots :=
  host.statics.getD declaration.statics []

/-- How an object is held. -/
def borrowOf (host : Host) (handle : Handle) : Borrow :=
  match host.instance? handle with
  | some found => found.borrow
  | none => .exclusive

/-- The host with an instance changed. -/
def modify (host : Host) (handle : Handle) (change : Instance → Instance) : Host :=
  { host with instances := host.instances.modify handle.index change }

/-- The host with an object held in another way. -/
def withBorrow (host : Host) (handle : Handle) (borrow : Borrow) : Host :=
  host.modify handle fun found => { found with borrow := borrow }

/-- The host with a part of an object replaced. -/
def withPart (host : Host) (handle : Handle) (position : Nat) (slots : Slots) : Host :=
  host.modify handle fun found => { found with parts := replacePart slots found.parts position }

/-- The host with the static slots of a type replaced. -/
def withStatics (host : Host) (declaration : Declaration) (slots : Slots) : Host :=
  { host with statics := replacePart slots host.statics declaration.statics }

/-- A new instance, and the host with it. -/
def allocate (host : Host) (type : HostType) (parts : List Slots) : Handle × Host :=
  (⟨host.instances.length⟩,
    { host with instances := host.instances ++ [⟨type, parts, .free⟩] })

/-! ## Parts within reach -/

/-- The part of an object that belongs to the supertype so many steps up. -/
def view (host : Host) (handle : Handle) (steps : Nat) : Option Slots :=
  match host.instance? handle with
  | some found => found.type.view found.parts steps
  | none => none

/-- The part of an object as far as it can be read now. -/
def readable (host : Host) (handle : Handle) (steps : Nat) : Option Slots :=
  if host.borrowOf handle = .exclusive then none else host.view handle steps

/-- The part of an object as far as it can be written now. -/
def writable (host : Host) (handle : Handle) (steps : Nat) : Option Slots :=
  if host.borrowOf handle = .free then host.view handle steps else none

/-- The first hook of an object, run on the part of the type that declares it. -/
def firstHook {α : Type} (host : Host) (handle : Handle)
    (hook? : Declaration → Option (Slots → α)) : Option α :=
  match host.instance? handle with
  | some found =>
    if found.borrow = .exclusive then none else found.type.firstHook hook? found.parts
  | none => none

/-! ## Texts and elements -/

/-- The text of an object, following references so many instances deep.  An object without a text
of its own shows the name of its concrete type. -/
def objectTextWithin (host : Host) : Nat → Handle → String
  | 0, handle => host.typeName handle
  | depth + 1, handle =>
    let surroundings : Surroundings := ⟨Value.display (host.objectTextWithin depth), host.kind⟩
    (host.firstHook handle fun declaration =>
      declaration.display?.map fun hook => hook surroundings).getD (host.typeName handle)

/-- The text of an object.  Following references without coming back to an instance never goes
deeper than there are instances. -/
def objectText (host : Host) : Handle → String :=
  host.objectTextWithin host.instances.length

/-- The text of a value. -/
def display (host : Host) (value : Value) : String :=
  value.display host.objectText

/-- What a member can ask of the host in its present state. -/
def surroundings (host : Host) : Surroundings :=
  ⟨host.display, host.kind⟩

/-- What a loop over an object visits. -/
def objectElements? (host : Host) (handle : Handle) : Option (List Value) :=
  host.firstHook handle fun declaration =>
    declaration.iterate?.map fun hook => hook host.surroundings

/-- What a loop over a value visits. -/
def elements? (host : Host) (value : Value) : Option (List Value) :=
  value.elements? host.objectElements?

end Host

end Stencil
