import Mathlib.Data.List.Forall2
import Stencil.Host.Hold

/-!
# Hosts that differ in what nobody can read

Two states of the host are alike if they differ in nothing but the parts of instances
that are held exclusively (`Host.Alike`).  Those parts are out of reach: every way to
the part of an instance asks how the instance is held first.  So alike hosts have the
same parts to read and to write, the same hooks to run, and with that the same texts,
kinds and elements for every value.

Beside this stands what changing an instance leaves alone.  One state of the host
*spares* what is held in another if every held instance is the same in both
(`Host.Spares`).  An operation is *isolated* from what is held if alike hosts get one
answer from it and are alike afterwards, and if it spares what is held
(`Host.Isolated`).  Isolated operations one after the other are isolated.
-/

set_option autoImplicit false

namespace Stencil

/-! ## Alike instances and hosts -/

/-- Two states of an instance that differ in its parts at most, and in those only while it is held
exclusively. -/
structure Instance.Alike (left right : Instance) : Prop where
  type : left.type = right.type
  borrow : left.borrow = right.borrow
  parts : left.borrow ≠ .exclusive → left.parts = right.parts

theorem Instance.Alike.refl (found : Instance) : found.Alike found :=
  ⟨rfl, rfl, fun _ => rfl⟩

namespace Host

/-- Two states of the host that differ in the parts of exclusively held instances at most. -/
structure Alike (left right : Host) : Prop where
  instances : List.Forall₂ Instance.Alike left.instances right.instances
  statics : left.statics = right.statics

namespace Alike

variable {left right : Host} (alike : left.Alike right)
include alike

/-- A handle leads to alike instances or to none. -/
theorem instance? (handle : Handle) :
    Option.Rel Instance.Alike (left.instance? handle) (right.instance? handle) := by
  have instances := alike.instances
  simp only [Host.instance?]
  generalize left.instances = lefts, right.instances = rights, handle.index = index at instances
  induction instances generalizing index with
  | nil => exact .none
  | cons first rest ih =>
    cases index with
    | zero => exact .some first
    | succ index => exact ih index

/-- What is computed from the instance behind a handle is the same for alike hosts if it is the same
for alike instances. -/
theorem of_instance {α : Type} (handle : Handle) (missing : α) {present : Instance → α}
    (same : ∀ {found other : Instance}, found.Alike other → present found = present other) :
    (match left.instance? handle with
      | some found => present found
      | none => missing) =
      match right.instance? handle with
      | some found => present found
      | none => missing := by
  have found := alike.instance? handle
  generalize left.instance? handle = here, right.instance? handle = there at found
  cases found with
  | none => rfl
  | some instances => exact same instances

/-! ### Types and borrows -/

theorem typeOf : left.typeOf = right.typeOf := by
  funext handle
  exact alike.of_instance handle .root fun instances => instances.type

theorem typeName : left.typeName = right.typeName := by
  funext handle
  rw [Host.typeName, alike.typeOf, Host.typeName]

theorem kind : left.kind = right.kind := by
  funext value
  rw [Host.kind, alike.typeName, Host.kind]

theorem staticSlots : left.staticSlots = right.staticSlots := by
  funext declaration
  rw [Host.staticSlots, alike.statics, Host.staticSlots]

theorem borrowOf : left.borrowOf = right.borrowOf := by
  funext handle
  exact alike.of_instance handle .exclusive fun instances => instances.borrow

/-! ### Parts within reach -/

/-- A part that is not held exclusively is the same. -/
theorem view {handle : Handle} (reachable : left.borrowOf handle ≠ .exclusive) (steps : Nat) :
    left.view handle steps = right.view handle steps := by
  have found := alike.instance? handle
  simp only [Host.view, Host.borrowOf] at reachable ⊢
  generalize left.instance? handle = here, right.instance? handle = there at found reachable
  cases found with
  | none => rfl
  | some instances =>
    dsimp only at reachable ⊢
    rw [instances.type, instances.parts reachable]

theorem readable : left.readable = right.readable := by
  funext handle steps
  rw [Host.readable, Host.readable, ← alike.borrowOf]
  split
  · rfl
  · next reachable => exact alike.view reachable steps

theorem writable : left.writable = right.writable := by
  funext handle steps
  rw [Host.writable, Host.writable, ← alike.borrowOf]
  split
  · next free => exact alike.view (by simp [free]) steps
  · rfl

theorem firstHook {α : Type} (handle : Handle) (hook? : Declaration → Option (Slots → α)) :
    left.firstHook handle hook? = right.firstHook handle hook? := by
  refine alike.of_instance handle none fun {found other} instances => ?_
  rw [← instances.borrow, ← instances.type]
  split
  · rfl
  · next reachable => rw [instances.parts reachable]

/-- Whoever looks at the slots of an instance sees the same. -/
theorem slots? : left.slots? = right.slots? := by
  funext handle
  refine alike.of_instance handle none fun {found other} instances => ?_
  rw [← instances.borrow, ← instances.type]
  split
  · rfl
  · next reachable => rw [instances.parts reachable]

/-! ### Texts and elements -/

theorem objectTextWithin (depth : Nat) :
    left.objectTextWithin depth = right.objectTextWithin depth := by
  induction depth with
  | zero =>
    funext handle
    rw [Host.objectTextWithin, alike.typeName, Host.objectTextWithin]
  | succ depth ih =>
    funext handle
    simp only [Host.objectTextWithin, ih, alike.kind, alike.typeName, alike.firstHook]

theorem objectText : left.objectText = right.objectText := by
  rw [Host.objectText, Host.objectText, alike.objectTextWithin, alike.instances.length_eq]

theorem display : left.display = right.display := by
  funext value
  rw [Host.display, alike.objectText, Host.display]

theorem surroundings : left.surroundings = right.surroundings := by
  rw [Host.surroundings, alike.display, alike.kind, Host.surroundings]

theorem elements? : left.elements? = right.elements? := by
  funext value
  have objects : left.objectElements? = right.objectElements? := by
    funext handle
    rw [objectElements?, alike.surroundings, alike.firstHook, objectElements?]
  rw [Host.elements?, objects, Host.elements?]

/-! ### Changes -/

/-- The same change of an instance keeps hosts alike if it keeps instances alike. -/
theorem modify {change : Instance → Instance}
    (keeps : ∀ {found other : Instance}, found.Alike other → (change found).Alike (change other))
    (handle : Handle) : (left.modify handle change).Alike (right.modify handle change) := by
  refine ⟨?_, alike.statics⟩
  have instances := alike.instances
  simp only [Host.modify]
  generalize left.instances = lefts, right.instances = rights, handle.index = index at instances
  induction instances generalizing index with
  | nil => simp
  | cons first rest ih =>
    cases index with
    | zero => simpa using ⟨keeps first, rest⟩
    | succ index => simpa using ⟨first, ih index⟩

theorem withBorrow_exclusive (handle : Handle) :
    (left.withBorrow handle .exclusive).Alike (right.withBorrow handle .exclusive) := by
  refine alike.modify (fun {found other} instances => ?_) handle
  exact ⟨instances.type, rfl, fun reachable => absurd rfl reachable⟩

theorem withPart (handle : Handle) (position : Nat) (slots : Slots) :
    (left.withPart handle position slots).Alike (right.withPart handle position slots) := by
  refine alike.modify (fun {found other} instances => ?_) handle
  refine ⟨instances.type, instances.borrow, fun reachable => ?_⟩
  simp only [instances.parts reachable]

theorem withStatics (declaration : Declaration) (slots : Slots) :
    (left.withStatics declaration slots).Alike (right.withStatics declaration slots) := by
  refine ⟨alike.instances, ?_⟩
  simp only [Host.withStatics, alike.statics]

end Alike

/-! ## Sparing what is held -/

/-- Everything that is held in one state of the host is the same in another, and the same instances
are held. -/
structure Spares (before after : Host) : Prop where
  borrowOf : after.borrowOf = before.borrowOf
  held : ∀ {handle : Handle}, before.borrowOf handle ≠ .free →
    after.instance? handle = before.instance? handle

namespace Spares

theorem refl (host : Host) : host.Spares host :=
  ⟨rfl, fun _ => rfl⟩

theorem trans {before middle after : Host} (first : before.Spares middle)
    (second : middle.Spares after) : before.Spares after where
  borrowOf := second.borrowOf.trans first.borrowOf
  held := fun held => (second.held (first.borrowOf ▸ held)).trans (first.held held)

end Spares

theorem spares_withStatics (host : Host) (declaration : Declaration) (slots : Slots) :
    host.Spares (host.withStatics declaration slots) :=
  ⟨rfl, fun _ => rfl⟩

theorem instance?_modify (host : Host) (object : Handle) (change : Instance → Instance)
    (handle : Handle) :
    (host.modify object change).instance? handle =
      if handle = object then (host.instance? handle).map change else host.instance? handle := by
  obtain ⟨index⟩ := object
  obtain ⟨position⟩ := handle
  simp only [instance?, modify, List.getElem?_modify, Handle.mk.injEq, eq_comm (a := index)]
  split
  · rfl
  · exact Option.map_id'

/-- Writing a part of an instance that is not held spares all that are. -/
theorem spares_withPart {host : Host} {object : Handle} (free : host.borrowOf object = .free)
    (position : Nat) (slots : Slots) : host.Spares (host.withPart object position slots) where
  borrowOf := by
    funext handle
    by_cases same : handle = object
    · simp only [borrowOf, withPart, instance?_modify, if_pos same]
      cases host.instance? handle <;> rfl
    · simp only [borrowOf, withPart, instance?_modify, if_neg same]
  held := by
    intro handle held
    have other : handle ≠ object := fun same => held (same ▸ free)
    rw [withPart, instance?_modify, if_neg other]

/-! ## Isolated operations -/

/-- An operation that neither sees what is held exclusively nor changes what is held. -/
structure Isolated {α : Type} (operation : Host → α × Host) : Prop where
  answer : ∀ {left right : Host}, left.Alike right → (operation left).1 = (operation right).1
  alike : ∀ {left right : Host}, left.Alike right → (operation left).2.Alike (operation right).2
  spares : ∀ host : Host, host.Spares (operation host).2

/-- A look at the host that is the same for alike hosts is isolated. -/
theorem isolated_of_look {α : Type} (look : Host → α)
    (same : ∀ {left right : Host}, left.Alike right → look left = look right) :
    Isolated fun host => (look host, host) :=
  ⟨same, id, .refl⟩

namespace Isolated

variable {α β : Type} {operation : Host → α × Host}

theorem andThen {next : α → Host → β × Host} (isolated : Isolated operation)
    (isolatedNext : ∀ answer, Isolated (next answer)) :
    Isolated fun host => next (operation host).1 (operation host).2 where
  answer := by
    intro left right alike
    rw [isolated.answer alike]
    exact (isolatedNext _).answer (isolated.alike alike)
  alike := by
    intro left right alike
    rw [isolated.answer alike]
    exact (isolatedNext _).alike (isolated.alike alike)
  spares := fun host => (isolated.spares host).trans ((isolatedNext _).spares _)

theorem map (isolated : Isolated operation) (conclude : α → β) :
    Isolated fun host => (conclude (operation host).1, (operation host).2) :=
  isolated.andThen fun answer => isolated_of_look (fun _ => conclude answer) fun _ => rfl

end Isolated

/-- Running something on the static slots of a type is isolated. -/
theorem isolated_onStatics {α : Type} (declaration : Declaration)
    (run : Surroundings → Slots → α × Slots) :
    Isolated fun host =>
      let ran := run host.surroundings (host.staticSlots declaration)
      (ran.1, host.withStatics declaration ran.2) where
  answer := by
    intro left right alike
    simp only [alike.surroundings, alike.staticSlots]
  alike := by
    intro left right alike
    simp only [alike.surroundings, alike.staticSlots]
    exact alike.withStatics declaration _
  spares := fun host => spares_withStatics host declaration _

/-- Running something on a part of an instance as far as it can be written is isolated. -/
theorem isolated_onPart {α : Type} (object : Handle) (steps : Nat) (refused : α)
    (run : Surroundings → Slots → α × Slots) :
    Isolated fun host =>
      match host.writable object steps with
      | some part =>
        let ran := run (host.withBorrow object .exclusive).surroundings part
        (ran.1, host.withPart object steps ran.2)
      | none => (refused, host) where
  answer := by
    intro left right alike
    simp only [alike.writable, (alike.withBorrow_exclusive object).surroundings]
    cases right.writable object steps <;> rfl
  alike := by
    intro left right alike
    simp only [alike.writable, (alike.withBorrow_exclusive object).surroundings]
    cases right.writable object steps with
    | none => exact alike
    | some part => exact alike.withPart object steps _
  spares := by
    intro host
    dsimp only
    split
    · next part reachable =>
      have free : host.borrowOf object = .free := by
        rw [writable] at reachable
        split at reachable
        · assumption
        · cases reachable
      exact spares_withPart free steps _
    · exact .refl host

end Host

end Stencil
