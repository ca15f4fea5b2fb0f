import Stencil.Host.Formula
import Stencil.Proofs.Accessor.Address
import Stencil.Proofs.Scope.Snapshot

/-!
# Static members behind unreadable ones

Reading by name stops at the nearest member, and gives nothing if that cannot be read.  A
snapshot leaves out what cannot be read, one member at a time, and so a static member
farther up can show through (`Accessor.ShowsThrough`): it is in the snapshot although the
member of the instance that hides it from reading is not.

That is the only difference between the two, however the object is held and whichever
declarations fit it (`Accessor.snapshot_reads_or_showsThrough`).  It does happen
(`Accessor.snapshot_showsThrough_held`).
-/

set_option autoImplicit false

namespace Stencil.Accessor

variable {host : Host} {object : Handle} {accessor : Accessor} {search : Search}

/-! ## Showing through -/

/-- A static member shows through a member of the instance of the same name and sort, which is what
the name addresses but cannot be read.  What lies between them are members of the instance. -/
structure ShowsThrough (host : Host) (accessor : Accessor) (sort : MemberSort) (search : Search)
    (name : String) (nearer farther : Located Member) : Prop where
  addresses : search.Addresses (host.typeOf accessor.object) accessor.steps sort name nearer
  ofInstance : nearer.found.isStatic = false
  unreadable : ¬ CanReach host accessor.object nearer.steps false
  above : nearer.steps < farther.steps
  declares : (host.typeOf accessor.object).chain[farther.steps]? = some farther.declaration
  last : farther.declaration.LastNamed sort name farther.found
  static : farther.found.isStatic = true
  between : ∀ steps, nearer.steps < steps → steps < farther.steps → ∀ declaration,
    (host.typeOf accessor.object).chain[steps]? = some declaration → ∀ member,
      declaration.LastNamed sort name member → member.isStatic = false

/-- The levels that a search goes through stand one behind the other. -/
theorem snd_of_searched_eq {before after : List (Declaration × Nat)} {level : Declaration × Nat}
    (split : (accessor.searched search).reverse = before ++ level :: after) :
    level.2 = accessor.steps + before.length := by
  have here : (accessor.searched search).reverse[before.length]? = some level := by simp [split]
  rw [reverse_searched, List.getElem?_zipIdx] at here
  obtain ⟨declaration, -, rfl⟩ := Option.map_eq_some_iff.mp here
  rfl

/-- The types below the one of a level are those of the levels before it. -/
theorem Of.mem_before (of : Of host object accessor) {before after : List (Declaration × Nat)}
    {level : Declaration × Nat}
    (split : (accessor.searched search).reverse = before ++ level :: after) {steps : Nat}
    {declaration : Declaration} (start_le : accessor.steps ≤ steps) (below : steps < level.2)
    (declares : (host.typeOf object).chain[steps]? = some declaration) :
    (declaration, steps) ∈ before := by
  obtain ⟨distance, rfl⟩ := Nat.exists_eq_add_of_le start_le
  rw [snd_of_searched_eq split] at below
  have within : distance < before.length := by omega
  have member : before[distance] ∈ before := List.getElem_mem within
  -- the level at that distance stands so many steps up, where the chain has one declaration only
  have steps : before[distance].2 = accessor.steps + distance := by
    have cut : before = before.take distance ++ before[distance] :: before.drop (distance + 1) := by
      rw [List.getElem_cons_drop, List.take_append_drop]
    rw [cut, List.append_assoc, List.cons_append] at split
    rw [snd_of_searched_eq split, List.length_take, Nat.min_eq_left within.le]
  have searched : before[distance] ∈ accessor.searched search := by
    rw [← List.mem_reverse, split]
    exact List.mem_append_left _ member
  have place := of.getElem?_of_mem_searched searched
  rw [steps, declares] at place
  rwa [Option.some.inj place, ← steps]

theorem not_canReach_of_read {located : Located Member}
    (declares : (host.typeOf object).chain[located.steps]? = some located.declaration)
    (unreadable : read host object located = none) :
    located.found.isStatic = false ∧ ¬ CanReach host object located.steps false := by
  rw [read_eq declares] at unreadable
  cases static : located.found.isStatic with
  | true => simp [CanReach, static] at unreadable
  | false =>
    refine ⟨rfl, fun reach => ?_⟩
    rw [static, if_pos reach] at unreadable
    cases unreadable

/-- What can be read farther up than an unreadable member of the instance is static. -/
theorem isStatic_of_read {nearer : Nat} {farther : Located Member}
    (unreadable : ¬ CanReach host object nearer false) (above : nearer ≤ farther.steps)
    (declares : (host.typeOf object).chain[farther.steps]? = some farther.declaration)
    {value : Value} (readable : read host object farther = some value) :
    farther.found.isStatic = true := by
  cases static : farther.found.isStatic with
  | true => rfl
  | false =>
    rw [read_eq declares, static] at readable
    split at readable
    · next reach =>
      obtain ⟨held, canView⟩ := reach.resolve_left Bool.false_ne_true
      exact absurd (.inr ⟨held, canView.mono above⟩) unreadable
    · cases readable

/-- The nearest readable member is what reading finds, unless a static member shows through. -/
theorem Of.readableValue?_eq_or_showsThrough (of : Of host object accessor) (sort : MemberSort)
    (search : Search) (name : String) :
    accessor.readableValue? host sort search name = accessor.valueOf? host sort search name ∨
      ∃ nearer farther, ShowsThrough host accessor sort search name nearer farther ∧
        accessor.readableValue? host sort search name =
          some (farther.found.get host.surroundings (host.staticSlots farther.declaration)) := by
  obtain rfl := of.object_eq
  by_cases readable : ∀ located, accessor.member? sort search name = some located →
      (read host accessor.object located).isSome
  · exact .inl (readableValue?_eq_valueOf? readable)
  simp only [not_forall, Option.not_isSome_iff_eq_none] at readable
  obtain ⟨nearer, found, nothing⟩ := readable
  have addresses := of.member?_eq_some_iff.mp found
  obtain ⟨ofInstance, unreadable⟩ := not_canReach_of_read addresses.declares nothing
  cases value : accessor.readableValue? host sort search name with
  | none => exact .inl (by rw [valueOf?, found, Option.bind_some, nothing])
  | some value =>
    obtain ⟨before, ⟨declaration, steps⟩, after, split, made, passed⟩ :=
      List.findSome?_eq_some_iff.mp value
    obtain ⟨farther, mapped, readable⟩ := Option.bind_eq_some_iff.mp made
    obtain ⟨member, declared, rfl⟩ := Option.map_eq_some_iff.mp mapped
    have declares : (host.typeOf accessor.object).chain[steps]? = some declaration :=
      of.getElem?_of_mem_searched (List.mem_reverse.mp (split ▸ List.mem_append_cons_self))
    have start_le : accessor.steps ≤ steps :=
      (Nat.le_add_right _ _).trans (snd_of_searched_eq split).ge
    -- at the same place it would be the member that cannot be read
    have elsewhere : nearer.steps ≠ steps := by
      intro same
      have unread := addresses.eq_of_steps_eq ⟨steps, declaration, member⟩ same.symm declares
        declared
      rw [unread, nothing] at readable
      cases readable
    have above : nearer.steps < steps :=
      Nat.lt_of_le_of_ne
        (addresses.steps_le ⟨steps, declaration, member⟩ start_le declares declared) elsewhere
    have static := isStatic_of_read unreadable above.le declares readable
    refine .inr ⟨nearer, ⟨steps, declaration, member⟩, ⟨addresses, ofInstance, unreadable, above,
      declares, (Declaration.member?_eq_some_iff.mp declared).1, static, ?_⟩, ?_⟩
    · intro between less below nearerDeclaration here other last
      cases isStatic : other.isStatic with
      | false => rfl
      | true =>
        -- a static member in between could be read
        have unread := passed _ (of.mem_before split (addresses.start_le.trans less.le) below here)
        have found : nearerDeclaration.member? sort search name = some other :=
          Declaration.member?_eq_some_iff.mpr ⟨last, by simp [Search.permits, isStatic]⟩
        simp [found, read, isStatic] at unread
    · rw [read, if_pos static] at readable
      exact readable.symm

/-- **A snapshot holds what reading finds, but for static members that show through.**  Let no type
of an object use a name for two fields or for two properties.  However the object is held, and
whichever declarations were made for it, a snapshot by any accessor of it holds under each name the
property of that name or else the field, as they are read then; or else it holds a static member
that shows through a nearer member of the instance which cannot be read. -/
theorem snapshot_reads_or_showsThrough (apart : (host.typeOf object).KeepsNamesApart)
    (of : Of host object accessor) (search : Search) (name : String) :
    Entries.get? (accessor.members host search) name =
        (accessor.get host .property search name).value.1.or
          (accessor.get host .field search name).value.1 ∨
      ∃ sort nearer farther, ShowsThrough host accessor sort search name nearer farther ∧
        Entries.get? (accessor.members host search) name =
          some (farther.found.get host.surroundings (host.staticSlots farther.declaration)) := by
  have levels : ∀ level ∈ accessor.searched search, ∀ sort,
      ((level.1.members sort).map Member.name).Nodup := fun level member sort =>
    apart level.1 (List.mem_of_getElem? (of.getElem?_of_mem_searched member)) sort
  rw [get?_members_of_apart levels, value_get, value_get]
  rcases of.readableValue?_eq_or_showsThrough .property search name with
    property | ⟨nearer, farther, shows, property⟩
  · rw [property]
    cases accessor.valueOf? host .property search name with
    | some value => exact .inl rfl
    | none =>
      rcases of.readableValue?_eq_or_showsThrough .field search name with
        field | ⟨nearer, farther, shows, field⟩
      · exact .inl (by rw [field])
      · exact .inr ⟨.field, nearer, farther, shows, field⟩
  · exact .inr ⟨.property, nearer, farther, shows, by rw [property, Option.some_or]⟩

/-- A puppy that the host holds for writing.  Its legs and those of the dog in it cannot be read,
and the legs that all animals have show through, while its kind is read as always. -/
theorem snapshot_reads_or_showsThrough_puppy :
    let animal : Declaration :=
      { Declaration.root with
        name := "Animal"
        fields := [.ofFormula "legs" true (.constant (.int 4)) none]
        properties := [.ofFormula "kind" true (.constant (.string "animal")) none] }
    let dog : Declaration :=
      { Declaration.root with
        name := "Dog"
        fields := [.ofFormula "legs" false (.slot "legs") none] }
    let puppy : Declaration := { dog with name := "Puppy" }
    let host : Host :=
      ⟨[⟨.extend (.extend (.extend .root animal) dog) puppy,
        [[("legs", .int 3)], [("legs", .int 3)]], .exclusive⟩], []⟩
    let object : Handle := ⟨0⟩
    let accessor := Accessor.new host object
    (host.typeOf object).KeepsNamesApart ∧ Of host object accessor ∧
    Entries.get? (accessor.members host .all) "kind" = some (.string "animal") ∧
    (accessor.get host .property .all "kind").value.1 = some (.string "animal") ∧
    ∃ sort nearer farther, ShowsThrough host accessor sort .all "legs" nearer farther ∧
      Entries.get? (accessor.members host .all) "legs" =
        some (farther.found.get host.surroundings (host.staticSlots farther.declaration)) := by
  intro animal dog puppy host object accessor
  have apart : (host.typeOf object).KeepsNamesApart := by
    intro declaration member sort
    have chain : declaration ∈ [puppy, dog, animal, Declaration.root] := member
    simp only [List.mem_cons, List.not_mem_nil, or_false] at chain
    rcases chain with rfl | rfl | rfl | rfl <;> cases sort <;> decide
  have of : Of host object accessor := .new
  have entry := snapshot_reads_or_showsThrough apart of .all
  refine ⟨apart, of, by decide +kernel, by decide +kernel,
    (entry "legs").resolve_left ?_⟩
  decide +kernel

/-- The legs of an animal are in the snapshot of a dog that is held for writing, although its own
legs hide them from reading and cannot be read. -/
theorem snapshot_showsThrough_held :
    let animal : Declaration :=
      { Declaration.root with
        name := "Animal"
        fields := [.ofFormula "legs" true (.constant (.int 4)) none] }
    let dog : Declaration :=
      { Declaration.root with
        name := "Dog"
        fields := [.ofFormula "legs" false (.slot "legs") none] }
    let host : Host :=
      ⟨[⟨.extend (.extend .root animal) dog, [[("legs", .int 3)]], .exclusive⟩], []⟩
    let object : Handle := ⟨0⟩
    let accessor := Accessor.new host object
    (host.typeOf object).KeepsNamesApart ∧
    Entries.get? (accessor.members host .all) "legs" = some (.int 4) ∧
    (accessor.get host .property .all "legs").value.1.or
      (accessor.get host .field .all "legs").value.1 = none := by
  intro animal dog host object accessor
  refine ⟨?_, by decide +kernel, by decide +kernel⟩
  intro declaration member sort
  have chain : declaration ∈ [dog, animal, Declaration.root] := member
  simp only [List.mem_cons, List.not_mem_nil, or_false] at chain
  rcases chain with rfl | rfl | rfl <;> cases sort <;> decide

end Stencil.Accessor
