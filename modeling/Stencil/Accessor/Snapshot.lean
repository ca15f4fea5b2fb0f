import Stencil.Accessor.Basic

/-!
# Snapshots of members

The readable members of an object as a map.  Fields come before properties and the
members of a supertype before those of the types below it, so that a property
replaces the field of its name and a nearer member a farther one, each in the
place of the first.  A member that cannot be read is left out.
-/

set_option autoImplicit false

namespace Stencil.Accessor

/-- The entries with one member of an object added. -/
def addMember (host : Host) (object : Handle) (search : Search) (steps : Nat)
    (declaration : Declaration) (entries : Entries Value) (member : Member) : Entries Value :=
  if search.permits member.isStatic then
    match read host object ⟨steps, declaration, member⟩ with
    | some value => entries.insert member.name value
    | none => entries
  else entries

/-- The entries with the members of a sort added that a declaration so many steps up makes. -/
def addMembers (host : Host) (object : Handle) (search : Search) (sort : MemberSort)
    (entries : Entries Value) (level : Declaration × Nat) : Entries Value :=
  (level.1.members sort).foldl (addMember host object search level.2 level.1) entries

/-- The declarations that a search searches, each with its distance, the farthest first. -/
def searched (accessor : Accessor) (search : Search) : List (Declaration × Nat) :=
  let declarations :=
    if search.inherited then accessor.declarations else [accessor.bound.declaration]
  (declarations.zipIdx accessor.steps).reverse

/-- The readable members that a search permits. -/
def members (host : Host) (accessor : Accessor) (search : Search) : Entries Value :=
  let levels := accessor.searched search
  let fields := levels.foldl (addMembers host accessor.object search .field) []
  levels.foldl (addMembers host accessor.object search .property) fields

end Stencil.Accessor
