import Stencil.Proofs.Accessor.Chain
import Stencil.Proofs.Host.Spot

/-!
# What a name addresses

A name addresses one member of an object: that of the first type, from the bound one up,
whose last member of that name the search permits (`Search.Addresses`).  An accessor finds
just this member (`Accessor.Of.member?_eq_some_iff`), whichever tables it has built.

A member or a method works on the slots at one spot, those of its type or the part of the
instance that belongs to its type (`Located.spot`).  A member of the instance is reached
there exactly if the instance is not held in the way and can be viewed as the declaring
type (`Accessor.read_eq`, `Accessor.write_eq`, `Accessor.call_eq`).
-/

set_option autoImplicit false

namespace Stencil

/-! ## The first find up a chain -/

/-- A search up a chain finds something in the first declaration where there is something to find,
which is the first of all unless the search goes on. -/
theorem locate_eq_some_iff {α : Type} {inherited : Bool} {find? : Declaration → Option α}
    {start : Nat} {declarations : List Declaration} {located : Located α} :
    locate inherited find? start declarations = some located ↔
      ∃ distance, located.steps = start + distance ∧ (distance ≠ 0 → inherited = true) ∧
        declarations[distance]? = some located.declaration ∧
        find? located.declaration = some located.found ∧
        ∀ nearer < distance, ∀ declaration, declarations[nearer]? = some declaration →
          find? declaration = none := by
  induction declarations generalizing start with
  | nil => simp [locate]
  | cons declaration rest ih =>
    rw [locate, ← Nat.or_exists_add_one]
    simp only [List.getElem?_cons_zero, List.getElem?_cons_succ, Nat.forall_lt_succ_left,
      Option.some.injEq, forall_eq']
    cases here : find? declaration with
    | some first =>
      -- what is found here is nearer than anything in the rest
      obtain ⟨steps, declaring, found⟩ := located
      grind
    | none =>
      cases inherited with
      | false => grind
      | true =>
        simp only [if_true, ih]
        grind

/-! ## Members by name -/

namespace Declaration

/-- A member is the last one of a name that a declaration makes. -/
def LastNamed (declaration : Declaration) (sort : MemberSort) (name : String) (member : Member) :
    Prop :=
  ∃ before after, declaration.members sort = before ++ member :: after ∧ member.name = name ∧
    ∀ later ∈ after, later.name ≠ name

variable {declaration : Declaration} {sort : MemberSort} {search : Search} {name : String}
  {member : Member}

theorem lastNamed_iff :
    declaration.LastNamed sort name member ↔
      ((declaration.members sort).reverse.find? fun member => member.name = name) =
        some member := by
  rw [List.find?_eq_some_iff_append]
  simp only [List.reverse_eq_append_iff, List.reverse_cons, List.append_assoc,
    List.singleton_append, decide_eq_true_eq, Bool.not_eq_true', decide_eq_false_iff_not]
  constructor
  · rintro ⟨before, after, split, named, last⟩
    refine ⟨named, after.reverse, before.reverse, ?_, fun later among => last later ?_⟩
    · rw [List.reverse_reverse, List.reverse_reverse, split]
    · exact List.mem_reverse.mp among
  · rintro ⟨named, after, before, split, last⟩
    exact ⟨before.reverse, after.reverse, split, named,
      fun later among => last later (List.mem_reverse.mp among)⟩

/-- A declaration lets a search find the last member of a name if the search permits it. -/
theorem member?_eq_some_iff :
    declaration.member? sort search name = some member ↔
      declaration.LastNamed sort name member ∧ search.permits member.isStatic = true := by
  rw [member?, lastNamed_iff]
  cases (declaration.members sort).reverse.find? fun member => member.name = name with
  | none => simp
  | some last =>
    simp only [Option.some.injEq]
    constructor
    · intro found
      split at found
      · next permitted =>
        obtain rfl := Option.some.inj found
        exact ⟨rfl, permitted⟩
      · cases found
    · rintro ⟨rfl, permitted⟩
      rw [if_pos permitted]

/-- A declaration lets a search find nothing if the search does not permit the last member of a
name. -/
theorem member?_eq_none_iff :
    declaration.member? sort search name = none ↔
      ∀ member, declaration.LastNamed sort name member →
        search.permits member.isStatic = false := by
  rw [Option.eq_none_iff_forall_ne_some]
  simp only [ne_eq, member?_eq_some_iff, not_and, Bool.not_eq_true]

end Declaration

/-- A member is what a name addresses for a search of the chain of a type, from the type that is so
many steps up. -/
structure Search.Addresses (search : Search) (type : HostType) (start : Nat) (sort : MemberSort)
    (name : String) (located : Located Member) : Prop where
  start_le : start ≤ located.steps
  inherited : located.steps ≠ start → search.inherited = true
  declares : type.chain[located.steps]? = some located.declaration
  last : located.declaration.LastNamed sort name located.found
  permitted : search.permits located.found.isStatic = true
  /-- What is nearer has no such member: the last one of the name is not permitted there. -/
  nearest : ∀ steps, start ≤ steps → steps < located.steps → ∀ declaration,
    type.chain[steps]? = some declaration → ∀ member, declaration.LastNamed sort name member →
      search.permits member.isStatic = false

namespace Search.Addresses

variable {search : Search} {type : HostType} {start : Nat} {sort : MemberSort} {name : String}
  {located : Located Member} (addresses : search.Addresses type start sort name located)
include addresses

theorem member?_eq : located.declaration.member? sort search name = some located.found :=
  Declaration.member?_eq_some_iff.mpr ⟨addresses.last, addresses.permitted⟩

/-- Whatever else a search could find is not nearer. -/
theorem steps_le (other : Located Member) (start_le : start ≤ other.steps)
    (declares : type.chain[other.steps]? = some other.declaration)
    (found : other.declaration.member? sort search name = some other.found) :
    located.steps ≤ other.steps := by
  by_contra nearer
  obtain ⟨last, permitted⟩ := Declaration.member?_eq_some_iff.mp found
  have refused := addresses.nearest other.steps start_le (Nat.lt_of_not_le nearer)
    other.declaration declares other.found last
  rw [permitted] at refused
  cases refused

/-- One type lets a search find one member. -/
theorem eq_of_steps_eq (other : Located Member) (same : other.steps = located.steps)
    (declares : type.chain[other.steps]? = some other.declaration)
    (found : other.declaration.member? sort search name = some other.found) : other = located := by
  have finds := addresses.member?_eq
  have declared := addresses.declares
  obtain ⟨steps, declaration, member⟩ := other
  obtain ⟨_, declaration', member'⟩ := located
  obtain rfl := same
  obtain rfl : declaration = declaration' := Option.some.inj (declares.symm.trans declared)
  obtain rfl : member = member' := Option.some.inj (found.symm.trans finds)
  rfl

end Search.Addresses

namespace Accessor

variable {host : Host} {object : Handle} {accessor : Accessor}

/-- An accessor finds the member that a name addresses. -/
theorem Of.member?_eq_some_iff (of : Of host object accessor) {sort : MemberSort} {search : Search}
    {name : String} {located : Located Member} :
    accessor.member? sort search name = some located ↔
      search.Addresses (host.typeOf object) accessor.steps sort name located := by
  rw [member?, of.declarations, locate_eq_some_iff]
  simp only [List.getElem?_drop, Declaration.member?_eq_some_iff, Declaration.member?_eq_none_iff]
  constructor
  · rintro ⟨distance, steps, inherited, declares, ⟨last, permitted⟩, first⟩
    refine ⟨by omega, fun moved => inherited (by omega), steps ▸ declares, last, permitted, ?_⟩
    intro nearer from_start less declaration declared
    obtain ⟨below, rfl⟩ := Nat.exists_eq_add_of_le from_start
    exact first below (by omega) declaration declared
  · intro addresses
    obtain ⟨distance, steps⟩ := Nat.exists_eq_add_of_le addresses.start_le
    refine ⟨distance, steps, fun moved => addresses.inherited (by omega),
      steps ▸ addresses.declares, ⟨addresses.last, addresses.permitted⟩, ?_⟩
    intro nearer less declaration declared
    exact addresses.nearest (accessor.steps + nearer) (by omega) (by omega) declaration declared

end Accessor

/-! ## Where members work -/

/-- The spot on whose slots something works that was found for an object. -/
def Located.spot {α : Type} (located : Located α) (isStatic : Bool) (object : Handle) : Spot :=
  if isStatic then .statics located.declaration.statics else .part object located.steps

namespace Accessor

variable (host : Host) (object : Handle)

/-- A static member can always be read, and one of the instance if that is not held exclusively and
can be viewed as the declaring type. -/
def CanReach (steps : Nat) (isStatic : Bool) : Prop :=
  isStatic = true ∨ host.borrowOf object ≠ .exclusive ∧ host.CanView object steps

/-- A static member or method can always change its slots, and one of the instance if that is not
held at all and can be viewed as the declaring type. -/
def CanChange (steps : Nat) (isStatic : Bool) : Prop :=
  isStatic = true ∨ host.borrowOf object = .free ∧ host.CanView object steps

instance (steps : Nat) (isStatic : Bool) : Decidable (CanReach host object steps isStatic) :=
  inferInstanceAs (Decidable (_ ∨ _))

instance (steps : Nat) (isStatic : Bool) : Decidable (CanChange host object steps isStatic) :=
  inferInstanceAs (Decidable (_ ∨ _))

variable {host : Host} {object : Handle}

theorem read_eq {located : Located Member}
    (declares : (host.typeOf object).chain[located.steps]? = some located.declaration) :
    read host object located =
      if CanReach host object located.steps located.found.isStatic then
        some (located.found.get host.surroundings
          (host.slotsAt (located.spot located.found.isStatic object)))
      else none := by
  have reach := Host.readable_of_fits declares
  cases static : located.found.isStatic with
  | true => simp [read, static, CanReach, Located.spot, Host.slotsAt, Host.staticSlots]
  | false =>
    have mapped := congrArg (Option.map (located.found.get host.surroundings)) reach
    rw [apply_ite (Option.map _), apply_ite (Option.map _)] at mapped
    simpa [read, static, CanReach, Located.spot] using mapped

theorem write_eq {located : Located Member}
    (declares : (host.typeOf object).chain[located.steps]? = some located.declaration)
    (value : Value) :
    write host object located value =
      match located.found.set? with
      | some set =>
        if CanChange host object located.steps located.found.isStatic then
          host.runAt (located.spot located.found.isStatic object) (set · value)
        else (false, host)
      | none => (false, host) := by
  cases setter : located.found.set? with
  | none => simp only [write, setter]
  | some set =>
    cases static : located.found.isStatic with
    | true =>
      simp only [write, setter, static, if_true, CanChange, Located.spot, true_or]
      rfl
    | false =>
      have change := Host.writable_of_fits declares
      simp only [write, setter, static, Bool.false_eq_true, if_false, CanChange, Located.spot,
        false_or]
      grind [Host.runAt, Host.surroundingsAt, Host.withSlotsAt]

theorem call_eq {located : Located Method}
    (declares : (host.typeOf object).chain[located.steps]? = some located.declaration)
    (arguments : List Value) :
    call host object located arguments =
      if CanChange host object located.steps located.found.isStatic then
        Prod.map some id (host.runAt (located.spot located.found.isStatic object)
          (located.found.call · arguments))
      else (none, host) := by
  cases static : located.found.isStatic with
  | true =>
    simp only [call, static, if_true, CanChange, Located.spot, true_or]
    rfl
  | false =>
    have change := Host.writable_of_fits declares
    simp only [call, static, Bool.false_eq_true, if_false, CanChange, Located.spot, false_or]
    grind [Host.runAt, Host.surroundingsAt, Host.withSlotsAt]

end Accessor

end Stencil
