import Stencil.Value.Basic

/-!
# Declarations of host types

A host type declares members under names.  A member reads and writes named slots:
those of the part of an instance that belongs to the declaring type, or, for a
static member, those of the type itself.  Nothing else of the host is within
reach of a member but the text and the kind of a value (`Surroundings`).

A type is the root type, or extends another type by a declaration.
-/

set_option autoImplicit false

namespace Stencil

/-- Named slots with their values. -/
abbrev Slots : Type := Entries Value

/-- What a member can ask of the host while it runs. -/
structure Surroundings where
  /-- The text of a value. -/
  display : Value → String
  /-- The kind of a value. -/
  kind : Value → Kind

/-- A field or a property. -/
structure Member where
  name : String
  /-- Whether the slots are those of the type. -/
  isStatic : Bool
  get : Surroundings → Slots → Value
  /-- Takes a value and says whether it was accepted.  A member without a setter is read-only. -/
  set? : Option (Surroundings → Value → Slots → Bool × Slots)

/-- Whether a member accepts writes. -/
def Member.isWritable (member : Member) : Bool :=
  member.set?.isSome

/-- One overload of a method. -/
structure Method where
  name : String
  /-- The kinds that the arguments have to have, one by one. -/
  parameters : List Kind
  /-- Whether the slots are those of the type. -/
  isStatic : Bool
  call : Surroundings → List Value → Slots → Value × Slots

/-- What a type declares itself. -/
structure Declaration where
  name : String
  /-- Which of the host's tables of static slots belongs to the type. -/
  statics : Nat
  fields : List Member
  properties : List Member
  methods : List Method
  /-- The text of an instance. -/
  display? : Option (Surroundings → Slots → String)
  /-- What a loop over an instance visits. -/
  iterate? : Option (Surroundings → Slots → List Value)
  /-- Whether the declaration was made for the instances it is used on.  One that was not reads no
  part of them. -/
  fits : Bool

namespace Declaration

/-- What the root type declares: nothing. -/
def root : Declaration where
  name := "object"
  statics := 0
  fields := []
  properties := []
  methods := []
  display? := none
  iterate? := none
  fits := true

end Declaration

/-- A host type. -/
inductive HostType
  /-- The type that every other type descends from. -/
  | root
  /-- A type with its immediate supertype. -/
  | extend (parent : HostType) (own : Declaration)

namespace HostType

instance : Inhabited HostType := ⟨.root⟩

/-- What a type declares itself. -/
def own : HostType → Declaration
  | .root => .root
  | .extend _ own => own

/-- The immediate supertype. -/
def parent? : HostType → Option HostType
  | .root => none
  | .extend parent _ => some parent

/-- The name of a type. -/
def name (type : HostType) : String :=
  type.own.name

/-- What the supertypes declare, the nearest first and the root last. -/
def ancestors : HostType → List Declaration
  | .root => []
  | .extend parent _ => parent.own :: parent.ancestors

/-- What a type and its supertypes declare, the type first and the root last. -/
def chain (type : HostType) : List Declaration :=
  type.own :: type.ancestors

end HostType

end Stencil
