import Stencil.Accessor.Search
import Stencil.Host.Basic
import Stencil.Noted

/-!
# Accessors

An accessor reads, writes and invokes the members of one object by name.  It is
bound to one type of the object's chain, the concrete type or, after steps to
`parent?`, a supertype.

A search consults the tables of the bound type and of its supertypes up to the
one where it finds something.  The first time the table of a type is consulted
it is built, and the accessor remembers that.  Whether a table has been built
shows in the events alone: what is found depends on the declarations.
-/

set_option autoImplicit false

namespace Stencil

/-! ## Tables -/

/-- Which tables of a type have been built. -/
structure Built where
  fields : Bool
  properties : Bool
  methods : Bool
  deriving DecidableEq, Repr

/-- No table. -/
def Built.none : Built := ⟨false, false, false⟩

/-- A type of a chain with the tables built for it. -/
structure Link where
  declaration : Declaration
  built : Built

namespace Link

/-- The link of a declaration without tables. -/
def ofDeclaration (declaration : Declaration) : Link :=
  ⟨declaration, .none⟩

/-- Builds the table of the members of a sort unless it is there. -/
def index (sort : MemberSort) (link : Link) : Noted Link :=
  let name := link.declaration.name
  match sort with
  | .field =>
    if link.built.fields then pure link
    else do
      Noted.note (.indexed .field name)
      return { link with built := { link.built with fields := true } }
  | .property =>
    if link.built.properties then pure link
    else do
      Noted.note (.indexed .property name)
      return { link with built := { link.built with properties := true } }

/-- Builds the table of the methods unless it is there. -/
def indexMethods (link : Link) : Noted Link :=
  if link.built.methods then pure link
  else do
    Noted.note (.indexedMethods link.declaration.name)
    return { link with built := { link.built with methods := true } }

end Link

/-- Consults tables up a chain, up to the first type that has an answer or the first type alone. -/
def consult (inherited : Bool) (answers : Declaration → Bool) (index : Link → Noted Link) :
    List Link → Noted (List Link)
  | [] => pure []
  | link :: rest => do
    let first ← index link
    if answers link.declaration || !inherited then return first :: rest
    else return first :: (← consult inherited answers index rest)

/-! ## Accessors and their types -/

/-- The way to the members of one object, from one type of its chain up. -/
structure Accessor where
  object : Handle
  /-- How many steps above the concrete type the bound type is. -/
  steps : Nat
  /-- The bound type. -/
  bound : Link
  /-- Its supertypes, the nearest first and the root last. -/
  ancestors : List Link

namespace Accessor

/-- The accessor of an object, bound to its concrete type. -/
def new (host : Host) (object : Handle) : Accessor where
  object := object
  steps := 0
  bound := .ofDeclaration (host.typeOf object).own
  ancestors := (host.typeOf object).ancestors.map .ofDeclaration

/-- The types from the bound one up. -/
def links (accessor : Accessor) : List Link :=
  accessor.bound :: accessor.ancestors

/-- The declarations from the bound type up. -/
def declarations (accessor : Accessor) : List Declaration :=
  accessor.links.map Link.declaration

/-- The name of the bound type. -/
def typeName (accessor : Accessor) : String :=
  accessor.bound.declaration.name

/-- Whether the bound type is the root type. -/
def isRoot (accessor : Accessor) : Bool :=
  accessor.ancestors.isEmpty

/-- The accessor of the same object bound to the immediate supertype. -/
def parent? (accessor : Accessor) : Option Accessor :=
  match accessor.ancestors with
  | [] => none
  | bound :: ancestors =>
    some { object := accessor.object, steps := accessor.steps + 1, bound, ancestors }

/-- The accessor with the tables that were built by way of its parent. -/
def withParent (accessor parent : Accessor) : Accessor :=
  { accessor with ancestors := parent.links }

/-- Does something with the accessor so many steps up, and keeps the tables it builds. -/
def above {α : Type} (act : Accessor → Noted (α × Accessor)) :
    Nat → Accessor → Option (Noted (α × Accessor))
  | 0, accessor => some (act accessor)
  | steps + 1, accessor =>
    match accessor.parent? with
    | none => none
    | some parent =>
      (above act steps parent).map fun noted =>
        (fun (answer, changed) => (answer, accessor.withParent changed)) <$> noted

/-! ## Finding members -/

/-- The accessor after a search for which some types of its chain have an answer. -/
def consulting (accessor : Accessor) (search : Search) (answers : Declaration → Bool)
    (index : Link → Noted Link) : Noted Accessor := do
  match ← consult search.inherited answers index accessor.links with
  | [] => return accessor
  | bound :: ancestors => return { accessor with bound, ancestors }

/-- The member that a search finds. -/
def member? (accessor : Accessor) (sort : MemberSort) (search : Search) (name : String) :
    Option (Located Member) :=
  locate search.inherited (fun declaration => declaration.member? sort search name)
    accessor.steps accessor.declarations

/-- The method that a search finds. -/
def method? (accessor : Accessor) (search : Search) (name : String) (kinds : List Kind) :
    Option (Located Method) :=
  locate search.inherited (fun declaration => declaration.method? search name kinds)
    accessor.steps accessor.declarations

/-! ## Using members -/

/-- Reads a member where it was found. -/
def read (host : Host) (object : Handle) (located : Located Member) : Option Value :=
  let member := located.found
  if member.isStatic then
    some (member.get host.surroundings (host.staticSlots located.declaration))
  else if located.declaration.fits then
    (host.readable object located.steps).map (member.get host.surroundings)
  else none

/-- Writes a member where it was found, and says whether it took the value.  While the setter of an
instance runs, the instance is held exclusively. -/
def write (host : Host) (object : Handle) (located : Located Member) (value : Value) :
    Bool × Host :=
  match located.found.set? with
  | none => (false, host)
  | some set =>
    if located.found.isStatic then
      let (taken, slots) := set host.surroundings value (host.staticSlots located.declaration)
      (taken, host.withStatics located.declaration slots)
    else if located.declaration.fits then
      match host.writable object located.steps with
      | some part =>
        let (taken, slots) := set (host.withBorrow object .exclusive).surroundings value part
        (taken, host.withPart object located.steps slots)
      | none => (false, host)
    else (false, host)

/-- Calls a method where it was found.  While the method of an instance runs, the instance is held
exclusively. -/
def call (host : Host) (object : Handle) (located : Located Method) (arguments : List Value) :
    Option Value × Host :=
  let method := located.found
  if method.isStatic then
    let (result, slots) := method.call host.surroundings arguments
      (host.staticSlots located.declaration)
    (some result, host.withStatics located.declaration slots)
  else if located.declaration.fits then
    match host.writable object located.steps with
    | some part =>
      let (result, slots) := method.call (host.withBorrow object .exclusive).surroundings
        arguments part
      (some result, host.withPart object located.steps slots)
    | none => (none, host)
  else (none, host)

/-! ## Members by name -/

/-- Reads a field or a property by name. -/
def get (host : Host) (accessor : Accessor) (sort : MemberSort) (search : Search) (name : String) :
    Noted (Option Value × Accessor) := do
  let after ← accessor.consulting search
    (fun declaration => (declaration.member? sort search name).isSome) (Link.index sort)
  return ((accessor.member? sort search name).bind (read host accessor.object), after)

/-- Writes a field or a property by name, and says whether a member took the value. -/
def set (host : Host) (accessor : Accessor) (sort : MemberSort) (search : Search) (name : String)
    (value : Value) : Noted (Bool × Host × Accessor) := do
  let after ← accessor.consulting search
    (fun declaration => (declaration.member? sort search name).isSome) (Link.index sort)
  match accessor.member? sort search name with
  | some located =>
    let (taken, written) := write host accessor.object located value
    return (taken, written, after)
  | none => return (false, host, after)

/-- Invokes the overload whose parameters are exactly the kinds of the arguments. -/
def invoke (host : Host) (accessor : Accessor) (search : Search) (name : String)
    (arguments : List Value) : Noted (Option Value × Host × Accessor) := do
  let kinds := arguments.map host.kind
  let after ← accessor.consulting search
    (fun declaration => (declaration.method? search name kinds).isSome) Link.indexMethods
  match accessor.method? search name kinds with
  | some located =>
    let (result, written) := call host accessor.object located arguments
    return (result, written, after)
  | none => return (none, host, after)

/-- Reads the property of a name, or else the field. -/
def propertyOrField (host : Host) (accessor : Accessor) (name : String) :
    Noted (Option Value × Accessor) := do
  let (property, accessor) ← accessor.get host .property .all name
  match property with
  | some value => return (some value, accessor)
  | none => accessor.get host .field .all name

end Accessor

end Stencil
