import Stencil.Proofs.Host.Alike

/-!
# Spots that hold slots

The slots of a host lie at spots: the parts of its instances and the tables of static
slots (`Spot`).  Replacing the slots at one spot leaves those at every other spot, and the
type and the borrow of every instance (`Host.keepsBut_withSlotsAt`).

A part of an instance is reached by stepping up from its concrete type.  It is within
reach if every declaration on the way, its own included, was made for the instance
(`Host.CanView`), and if the way in which the instance is held allows for it
(`Host.readable_of_fits`, `Host.writable_of_fits`).
-/

set_option autoImplicit false

namespace Stencil

/-- A place that holds slots. -/
inductive Spot
  /-- A part of an instance. -/
  | part (object : Handle) (position : Nat)
  /-- A table of static slots. -/
  | statics (position : Nat)
  deriving DecidableEq, Repr

/-! ## Lists of parts -/

theorem getD_replacePart (slots : Slots) (parts : List Slots) (position other : Nat) :
    (replacePart slots parts position).getD other [] =
      if other = position then slots else parts.getD other [] := by
  induction position generalizing parts other with
  | zero => cases other <;> cases parts <;> simp [replacePart]
  | succ position ih =>
    cases other with
    | zero => cases parts <;> simp [replacePart]
    | succ other =>
      have tail : parts.tail.getD other [] = parts.getD (other + 1) [] := by cases parts <;> rfl
      rw [replacePart, List.getD_cons_succ, ih, tail]
      simp only [Nat.add_right_cancel_iff]

/-- Stepping up a chain reaches the part at that distance if every declaration that a step leaves
fits. -/
theorem HostType.view_eq (type : HostType) (parts : List Slots) (steps : Nat) :
    type.view parts steps =
      if steps < type.chain.length ∧ ∀ declaration ∈ type.chain.take steps, declaration.fits = true
      then some (parts.getD steps []) else none := by
  induction type generalizing parts steps with
  | root =>
    cases steps with
    | zero => cases parts <;> simp [view, chain]
    | succ steps => simp [view, chain, ancestors]
  | extend parent own ih =>
    have chain_eq : (HostType.extend parent own).chain = own :: parent.chain := rfl
    cases steps with
    | zero => cases parts <;> simp [view, chain]
    | succ steps =>
      have tail : parts.tail.getD steps [] = parts.getD (steps + 1) [] := by cases parts <;> rfl
      rw [view, ih, tail, chain_eq]
      cases fits : own.fits <;> simp [fits]

namespace Host

variable {host : Host} {object : Handle}

/-! ## Slots at spots -/

/-- The slots at a spot.  A spot that the host does not have holds none. -/
def slotsAt (host : Host) : Spot → Slots
  | .part object position =>
    match host.instance? object with
    | some found => found.parts.getD position []
    | none => []
  | .statics position => host.statics.getD position []

/-- The host with the slots at a spot replaced. -/
def withSlotsAt (host : Host) (slots : Slots) : Spot → Host
  | .part object position => host.withPart object position slots
  | .statics position => { host with statics := replacePart slots host.statics position }

/-- Whether the host has the instance whose part a spot is. -/
def hasSpot (host : Host) : Spot → Bool
  | .part object _ => (host.instance? object).isSome
  | .statics _ => true

/-- Two states of the host that have the same instances, of the same types and held in the same way,
and the same slots everywhere but at certain spots. -/
structure KeepsBut (before after : Host) (changed : Spot → Prop) : Prop where
  length : after.instances.length = before.instances.length
  typeOf : after.typeOf = before.typeOf
  borrowOf : after.borrowOf = before.borrowOf
  slotsAt : ∀ spot, ¬ changed spot → after.slotsAt spot = before.slotsAt spot

theorem KeepsBut.refl (host : Host) (changed : Spot → Prop) : host.KeepsBut host changed :=
  ⟨rfl, rfl, rfl, fun _ _ => rfl⟩

theorem slotsAt_withPart (object : Handle) (position : Nat) (slots : Slots) (spot : Spot) :
    (host.withPart object position slots).slotsAt spot =
      if spot = .part object position ∧ host.hasSpot spot then slots else host.slotsAt spot := by
  cases spot with
  | statics other => simp [slotsAt, withPart, modify]
  | part other index =>
    simp only [slotsAt, withPart, instance?_modify, hasSpot, Spot.part.injEq]
    cases host.instance? other with
    | none => simp
    | some found =>
      by_cases same : other = object
      · simpa [same] using getD_replacePart slots found.parts position index
      · simp [same]

theorem slotsAt_withSlotsAt (slots : Slots) (spot other : Spot) :
    (host.withSlotsAt slots spot).slotsAt other =
      if other = spot ∧ host.hasSpot other then slots else host.slotsAt other := by
  cases spot with
  | part object position => exact slotsAt_withPart object position slots other
  | statics position =>
    cases other with
    | part object index => simp [slotsAt, withSlotsAt, instance?]
    | statics index =>
      simp only [slotsAt, withSlotsAt, getD_replacePart, hasSpot, Spot.statics.injEq, and_true]

/-- Replacing the slots at a spot leaves everything but these slots as it is. -/
theorem keepsBut_withSlotsAt (host : Host) (slots : Slots) (spot : Spot) :
    host.KeepsBut (host.withSlotsAt slots spot) (· = spot) where
  length := by cases spot <;> simp [withSlotsAt, withPart, modify]
  typeOf := by
    funext handle
    cases spot with
    | statics position => rfl
    | part object position =>
      simp only [typeOf, withSlotsAt, withPart, instance?_modify]
      by_cases same : handle = object <;> cases host.instance? handle <;> simp [same]
  borrowOf := by
    funext handle
    cases spot with
    | statics position => rfl
    | part object position =>
      simp only [borrowOf, withSlotsAt, withPart, instance?_modify]
      by_cases same : handle = object <;> cases host.instance? handle <;> simp [same]
  slotsAt := by
    intro other elsewhere
    rw [slotsAt_withSlotsAt, if_neg fun same => elsewhere same.1]

/-- Replacing the slots at a spot by the same slots changes nothing that can be seen. -/
theorem keepsBut_withSlotsAt_self (host : Host) (spot : Spot) :
    host.KeepsBut (host.withSlotsAt (host.slotsAt spot) spot) fun _ => False where
  length := (host.keepsBut_withSlotsAt _ spot).length
  typeOf := (host.keepsBut_withSlotsAt _ spot).typeOf
  borrowOf := (host.keepsBut_withSlotsAt _ spot).borrowOf
  slotsAt := by
    intro other _
    rw [slotsAt_withSlotsAt]
    split
    · next same => rw [same.1]
    · rfl

/-! ## Running something at a spot -/

/-- What can be asked of the host by what runs at a spot.  An instance is held exclusively while
something changes a part of it. -/
def surroundingsAt (host : Host) : Spot → Surroundings
  | .part object _ => (host.withBorrow object .exclusive).surroundings
  | .statics _ => host.surroundings

/-- Runs something that changes the slots at a spot. -/
def runAt {α : Type} (host : Host) (spot : Spot) (run : Surroundings → Slots → α × Slots) :
    α × Host :=
  let ran := run (host.surroundingsAt spot) (host.slotsAt spot)
  (ran.1, host.withSlotsAt ran.2 spot)

/-! ## Parts within reach -/

/-- Every declaration from the concrete type of an object to the one so many steps up was made for
it. -/
def CanView (host : Host) (object : Handle) (steps : Nat) : Prop :=
  ∀ declaration ∈ (host.typeOf object).chain.take (steps + 1), declaration.fits = true

instance (host : Host) (object : Handle) (steps : Nat) : Decidable (host.CanView object steps) :=
  inferInstanceAs (Decidable (∀ declaration ∈ (host.typeOf object).chain.take (steps + 1),
    declaration.fits = true))

theorem CanView.mono {near far : Nat} (canView : host.CanView object far) (le : near ≤ far) :
    host.CanView object near :=
  fun declaration member => canView declaration
    (List.take_subset_take_left _ (Nat.succ_le_succ le) member)

/-- The part of a type of the chain, if its declaration fits too, is within reach exactly if the
object can be viewed as that type. -/
theorem view_of_fits {steps : Nat} {declaration : Declaration}
    (declares : (host.typeOf object).chain[steps]? = some declaration)
    (present : (host.instance? object).isSome = true) :
    (if declaration.fits then host.view object steps else none) =
      if host.CanView object steps then some (host.slotsAt (.part object steps)) else none := by
  obtain ⟨found, here⟩ := Option.isSome_iff_exists.mp present
  obtain ⟨within, _⟩ := List.getElem?_eq_some_iff.mp declares
  simp only [CanView, List.take_add_one, declares, Option.toList_some, List.forall_mem_append,
    List.forall_mem_singleton]
  simp only [view, slotsAt, typeOf, here, HostType.view_eq] at within ⊢
  cases fits : declaration.fits <;> simp [within]

theorem isSome_instance? (reachable : host.borrowOf object ≠ .exclusive) :
    (host.instance? object).isSome = true := by
  cases found : host.instance? object with
  | some _ => rfl
  | none => simp [borrowOf, found] at reachable

theorem readable_of_fits {steps : Nat} {declaration : Declaration}
    (declares : (host.typeOf object).chain[steps]? = some declaration) :
    (if declaration.fits then host.readable object steps else none) =
      if host.borrowOf object ≠ .exclusive ∧ host.CanView object steps then
        some (host.slotsAt (.part object steps)) else none := by
  by_cases held : host.borrowOf object = .exclusive
  · simp [readable, held]
  · have view := view_of_fits declares (isSome_instance? held)
    simpa [readable, held] using view

theorem writable_of_fits {steps : Nat} {declaration : Declaration}
    (declares : (host.typeOf object).chain[steps]? = some declaration) :
    (if declaration.fits then host.writable object steps else none) =
      if host.borrowOf object = .free ∧ host.CanView object steps then
        some (host.slotsAt (.part object steps)) else none := by
  by_cases free : host.borrowOf object = .free
  · have view := view_of_fits declares (isSome_instance? (by simp [free]))
    simpa [writable, free] using view
  · simp [writable, free]

end Host

end Stencil
