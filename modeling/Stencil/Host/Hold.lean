import Stencil.Host.Basic

/-!
# What the host does with its instances

The host can hold an instance, let it go, write a slot of it and look at its
slots.  Holding an instance for reading is possible unless it is held for
writing; everything else that changes it needs that it is not held at all.
-/

set_option autoImplicit false

namespace Stencil.Host

/-- Holds an instance for reading, if that is possible. -/
def holdShared (host : Host) (object : Handle) : Option Host :=
  if host.borrowOf object = .exclusive then none else some (host.withBorrow object .shared)

/-- Holds an instance for writing, if that is possible. -/
def holdExclusively (host : Host) (object : Handle) : Option Host :=
  if host.borrowOf object = .free then some (host.withBorrow object .exclusive) else none

/-- Lets an instance go, if it is held. -/
def release (host : Host) (object : Handle) : Option Host :=
  if host.borrowOf object = .free then none else some (host.withBorrow object .free)

/-- Writes a slot of a part of an instance, if the instance is not held. -/
def setSlot (host : Host) (object : Handle) (position : Nat) (slot : String) (value : Value) :
    Option Host :=
  if host.borrowOf object = .free then
    some (host.modify object fun found =>
      let part := found.parts.getD position []
      { found with parts := replacePart (part.insert slot value) found.parts position })
  else none

/-- The slots of an instance, a part for each type it descends from, each part in the order of the
slots' names. -/
def slots? (host : Host) (object : Handle) : Option (List Slots) :=
  match host.instance? object with
  | some found =>
    if found.borrow = .exclusive then none
    else
      some ((List.range found.type.ancestors.length).map fun position =>
        Entries.sorted (found.parts.getD position []))
  | none => none

end Stencil.Host
