import Stencil.Host.Formula
import Stencil.Proofs.Accessor.Address
import Stencil.Proofs.Accessor.Table

/-!
# Reads and writes go to one member

What a name addresses is read by its getter and written by its setter, both on the slots
of one spot (`Accessor.GoesTo`).  If it cannot be reached, or has no setter, nothing takes
its place: reading gives nothing, and writing is refused and runs no setter.  Whatever is
written, the host changes at that spot alone, and if the setter keeps what it refuses then
a refused write leaves every slot as it was.

So it is for every accessor of an object, every search and every way in which the object
is held (`Accessor.goesTo_of_addresses`).
-/

set_option autoImplicit false

namespace Stencil

/-! ## Setters that keep what they refuse -/

/-- The setter of a member, if it has one, stores nothing when it refuses a value. -/
def Member.KeepsRefused (member : Member) : Prop :=
  ∀ set, member.set? = some set → ∀ surroundings value slots,
    (set surroundings value slots).1 = false → (set surroundings value slots).2 = slots

/-- The members given by formulas keep what they refuse. -/
theorem Member.keepsRefused_ofFormula (name : String) (isStatic : Bool) (getter : Formula)
    (setter : Option Storing) : (Member.ofFormula name isStatic getter setter).KeepsRefused := by
  intro set found surroundings value slots refused
  obtain ⟨storing, _, rfl⟩ := Option.map_eq_some_iff.mp found
  obtain ⟨slot, accepted⟩ := storing
  cases accepted with
  | none => cases refused
  | some kind =>
    simp only [Storing.set] at refused ⊢
    split at refused
    · cases refused
    · next other => rw [if_neg other]

namespace Accessor

variable {host : Host} {object : Handle} {accessor : Accessor}

/-- Reading and writing by a name go to one member of an object, at the spot where its slots are. -/
structure GoesTo (host : Host) (accessor : Accessor) (sort : MemberSort) (search : Search)
    (name : String) (located : Located Member) : Prop where
  /-- The getter is run on the slots there if they are within reach. -/
  get : (accessor.get host sort search name).value.1 =
    if CanReach host accessor.object located.steps located.found.isStatic then
      some (located.found.get host.surroundings
        (host.slotsAt (located.spot located.found.isStatic accessor.object)))
    else none
  /-- The setter is run on the slots there if there is one and they can be changed. -/
  set : ∀ value,
    ((accessor.set host sort search name value).value.1,
        (accessor.set host sort search name value).value.2.1) =
      match located.found.set? with
      | some set =>
        if CanChange host accessor.object located.steps located.found.isStatic then
          host.runAt (located.spot located.found.isStatic accessor.object) (set · value)
        else (false, host)
      | none => (false, host)
  /-- Whether the value is taken or not, nothing else changes. -/
  keeps : ∀ value,
    host.KeepsBut (accessor.set host sort search name value).value.2.1
      (· = located.spot located.found.isStatic accessor.object)
  /-- A setter that keeps what it refuses leaves all slots as they are. -/
  refused : located.found.KeepsRefused → ∀ value,
    (accessor.set host sort search name value).value.1 = false →
      host.KeepsBut (accessor.set host sort search name value).value.2.1 fun _ => False

/-- Reading by a name finds nothing, and writing is refused and leaves the host alone. -/
structure GoesNowhere (host : Host) (accessor : Accessor) (sort : MemberSort) (search : Search)
    (name : String) : Prop where
  get : (accessor.get host sort search name).value.1 = none
  set : ∀ value,
    ((accessor.set host sort search name value).value.1,
      (accessor.set host sort search name value).value.2.1) = (false, host)

/-! ## Writing at a spot -/

theorem set_eq_write (host : Host) {sort : MemberSort} {search : Search} {name : String}
    {located : Located Member} (found : accessor.member? sort search name = some located)
    (value : Value) :
    ((accessor.set host sort search name value).value.1,
        (accessor.set host sort search name value).value.2.1) =
      write host accessor.object located value := by
  rw [value_set]
  simp only [found]

section Write

variable {located : Located Member}
  (declares : (host.typeOf object).chain[located.steps]? = some located.declaration)
  (value : Value)
include declares

/-- Writing a member changes nothing but the slots it works on. -/
theorem keepsBut_write :
    host.KeepsBut (write host object located value).2
      (· = located.spot located.found.isStatic object) := by
  rw [write_eq declares]
  cases located.found.set? with
  | none => exact .refl host _
  | some set =>
    dsimp only
    split
    · exact host.keepsBut_withSlotsAt _ _
    · exact .refl host _

/-- A refused write changes nothing if the setter keeps what it refuses. -/
theorem keepsBut_write_of_refused (keeps : located.found.KeepsRefused)
    (refused : (write host object located value).1 = false) :
    host.KeepsBut (write host object located value).2 fun _ => False := by
  rw [write_eq declares] at refused ⊢
  cases setter : located.found.set? with
  | none => exact .refl host _
  | some set =>
    simp only [setter] at refused ⊢
    split at refused
    · next change =>
      rw [if_pos change, Host.runAt, keeps set setter _ _ _ refused]
      exact host.keepsBut_withSlotsAt_self _
    · next change =>
      rw [if_neg change]
      exact .refl host _

end Write

/-! ## What a name addresses is read and written -/

/-- **Reads and writes go to the one member that a name addresses.**  By every accessor of an
object, for every search and however the object is held, what the name addresses is read and written
on the slots of one spot; if the name addresses nothing then reading finds nothing and writing is
refused; and asking the tables of the types from parent to parent comes to the same. -/
theorem goesTo_of_addresses (of : Of host object accessor) (sort : MemberSort) (search : Search)
    (name : String) :
    (∀ located, search.Addresses (host.typeOf object) accessor.steps sort name located →
      GoesTo host accessor sort search name located) ∧
    ((∀ located, ¬ search.Addresses (host.typeOf object) accessor.steps sort name located) →
      GoesNowhere host accessor sort search name) ∧
    (accessor.get host sort search name).value.1 =
      accessor.ask search.inherited (·.tabled? search name sort) (read host) none ∧
    ∀ value,
      ((accessor.set host sort search name value).value.1,
          (accessor.set host sort search name value).value.2.1) =
        accessor.ask search.inherited (·.tabled? search name sort)
          (fun object located => write host object located value) (false, host) := by
  obtain rfl := of.object_eq
  refine ⟨?_, ?_, get_eq_ask host accessor search name sort,
    set_eq_ask host accessor search name sort⟩
  · intro located addresses
    have found := of.member?_eq_some_iff.mpr addresses
    have written := set_eq_write host found
    have taken (value : Value) := congrArg Prod.fst (written value)
    have after (value : Value) := congrArg Prod.snd (written value)
    dsimp only at taken after
    refine ⟨?_, fun value => ?_, fun value => ?_, fun keeps value refused => ?_⟩
    · rw [value_get, valueOf?, found, Option.bind_some, read_eq addresses.declares]
    · exact (written value).trans (write_eq addresses.declares value)
    · rw [after]
      exact keepsBut_write addresses.declares value
    · rw [taken] at refused
      rw [after]
      exact keepsBut_write_of_refused addresses.declares value keeps refused
  · intro nothing
    have missing : accessor.member? sort search name = none :=
      Option.eq_none_iff_forall_ne_some.mpr fun located found =>
        nothing located (of.member?_eq_some_iff.mp found)
    constructor
    · rw [value_get, valueOf?, missing, Option.bind_none]
    · intro value
      rw [value_set]
      simp only [missing]

/-- A dog is held for writing.  A search for all members stops at its own name, the last one that
dogs declare, which cannot be read.  A search for static members passes by it and goes on to the
name that all animals share.  A number is refused there and a text is stored. -/
theorem goesTo_of_addresses_statics :
    let shared : Member :=
      .ofFormula "name" true (.slot "name") (some ⟨"name", some .string⟩)
    let first : Member := .ofFormula "name" true (.constant (.string "dog")) none
    let own : Member := .ofFormula "name" false (.slot "name") none
    let animal : Declaration := { Declaration.root with name := "Animal", fields := [shared] }
    let dog : Declaration :=
      { Declaration.root with name := "Dog", statics := 1, fields := [first, own] }
    let host : Host :=
      ⟨[⟨.extend (.extend .root animal) dog, [[("name", .string "Rex")]], .exclusive⟩],
        [[("name", .string "beast")], []]⟩
    let object : Handle := ⟨0⟩
    let accessor := Accessor.new host object
    let statics := Search.all.statics
    Of host object accessor ∧
    Search.all.Addresses (host.typeOf object) 0 .field "name" ⟨0, dog, own⟩ ∧
    (accessor.get host .field .all "name").value.1 = none ∧
    statics.Addresses (host.typeOf object) 0 .field "name" ⟨1, animal, shared⟩ ∧
    (accessor.get host .field statics "name").value.1 = some (.string "beast") ∧
    host.KeepsBut (accessor.set host .field statics "name" (.int 1)).value.2.1 (fun _ => False) ∧
    (accessor.set host .field statics "name" (.string "pet")).value.1 = true ∧
    (accessor.set host .field statics "name" (.string "pet")).value.2.1.slotsAt (.statics 0) =
      [("name", .string "pet")] := by
  intro shared first own animal dog host object accessor statics
  have of : Of host object accessor := .new
  have addressesOwn :
      Search.all.Addresses (host.typeOf object) accessor.steps .field "name" ⟨0, dog, own⟩ :=
    of.member?_eq_some_iff.mp rfl
  have goesOwn := (goesTo_of_addresses of .field .all "name").1 _ addressesOwn
  have addresses :
      statics.Addresses (host.typeOf object) accessor.steps .field "name" ⟨1, animal, shared⟩ :=
    of.member?_eq_some_iff.mp rfl
  have goes := (goesTo_of_addresses of .field statics "name").1 _ addresses
  have stored := goes.set (.string "pet")
  have keeps : shared.KeepsRefused := Member.keepsRefused_ofFormula _ _ _ _
  refine ⟨of, addressesOwn, goesOwn.get.trans (by decide +kernel), addresses,
    goes.get.trans (by decide +kernel),
    goes.refused keeps (.int 1) (by decide +kernel), ?_, ?_⟩
  · exact congrArg Prod.fst stored
  · exact congrArg (fun written => written.2.slotsAt (.statics 0)) stored

end Accessor

end Stencil
