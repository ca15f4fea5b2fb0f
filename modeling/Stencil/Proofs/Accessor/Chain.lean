import Stencil.Proofs.Accessor.Tables

/-!
# The accessors of an object

An object is accessed through its concrete type and, step by step, through each of its
supertypes.  Whatever tables have been built on the way, the accessor so many steps up
is bound to the type so many steps up the chain (`Accessor.Of.declarations`).
-/

set_option autoImplicit false

namespace Stencil.Accessor

variable {host : Host} {object : Handle}

/-- The accessors of an object: the one bound to its concrete type, the parents of its accessors,
and those that differ from one of them in built tables alone. -/
inductive Of (host : Host) (object : Handle) : Accessor → Prop
  | new : Of host object (.new host object)
  | parent {accessor parent : Accessor} (of : Of host object accessor)
      (found : accessor.parent? = some parent) : Of host object parent
  | built {accessor other : Accessor} (of : Of host object accessor)
      (same : other.SameMembers accessor) : Of host object other

namespace Of

theorem object_eq {accessor : Accessor} (of : Of host object accessor) :
    accessor.object = object := by
  induction of with
  | new => rfl
  | parent of found ih =>
    rw [parent?] at found
    split at found
    · cases found
    · obtain rfl := Option.some.inj found
      exact ih
  | built of same ih => exact same.object.trans ih

theorem declarations_new :
    (Accessor.new host object).declarations = (host.typeOf object).chain := by
  have types (declarations : List Declaration) :
      (declarations.map Link.ofDeclaration).map Link.declaration = declarations := by
    rw [List.map_map]
    exact List.map_id declarations
  exact congrArg ((host.typeOf object).own :: ·) (types (host.typeOf object).ancestors)

/-- An accessor is bound to the type that is its number of steps up the chain. -/
theorem declarations {accessor : Accessor} (of : Of host object accessor) :
    accessor.declarations = (host.typeOf object).chain.drop accessor.steps := by
  induction of with
  | new => exact declarations_new
  | @parent accessor parent of found ih =>
    rw [parent?] at found
    split at found
    · cases found
    · next bound ancestors above =>
      obtain rfl := Option.some.inj found
      have rest : accessor.declarations.tail = accessor.ancestors.map Link.declaration := rfl
      rw [ih, List.tail_drop, above] at rest
      exact rest.symm
  | built of same ih => rw [same.declarations, ih, same.steps]

end Of

end Stencil.Accessor
