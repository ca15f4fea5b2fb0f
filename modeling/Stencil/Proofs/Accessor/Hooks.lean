import Stencil.Host.Formula
import Stencil.Proofs.Accessor.View
import Stencil.Proofs.Render.Outcome

/-!
# Hooks run where members work

A walk up an object takes its steps one at a time and hands to the hooks of each type what
they have led to.  The accessor of the type takes all the steps again.  Both come to the
same part of the instance, or both to none (`Host.getElem?_visits`,
`Host.getElem?_visits_eq_none_iff`).  As a step leads to the same part for looking at it and
for changing it, what the accessor changes is what the hooks are handed, before and after
(`Host.exists_putBack`).
-/

set_option autoImplicit false

namespace Stencil

/-! ## What a walk hands to hooks -/

namespace Host

variable (host : Host) (object : Handle)

theorem borrow?_eq_none_iff : host.borrow? object = none ↔ host.borrowOf object = .exclusive := by
  rw [borrow?, borrowOf]
  cases host.instance? object with
  | none => simp
  | some found => simp

/-- A walk hands to the hooks of each type what the accessor of that type reads. -/
theorem getElem?_visits (steps : Nat) :
    (host.visits object)[steps]? = (Viewing.above? host object steps).bind fun viewing =>
      viewing.withTarget host fun target => some (viewing.type, target) := by
  rw [Viewing.above?_eq, visits]
  cases above : (host.typeOf object).above? steps with
  | none =>
    cases host.borrow? object with
    | none => rfl
    | some whole =>
      dsimp only
      rw [HostType.getElem?_visits, above]
      rfl
  | some bound =>
    rw [Option.map_some, Option.bind_some, Viewing.withTarget]
    cases host.borrow? object with
    | none => rfl
    | some whole =>
      dsimp only
      rw [HostType.getElem?_visits, above]
      exact Option.map_eq_bind

theorem getElem?_zero_visits :
    (host.visits object)[0]? = (host.borrow? object).map (host.typeOf object, ·) := by
  rw [visits]
  cases host.borrow? object with
  | none => rfl
  | some whole => exact HostType.getElem?_zero_visits _ whole

variable {host object}

theorem getElem?_succ_visits {bound : HostType} {part : Target} {steps : Nat}
    (here : (host.visits object)[steps]? = some (bound, part)) :
    (host.visits object)[steps + 1]? = bound.next part := by
  rw [visits] at here ⊢
  cases whole : host.borrow? object with
  | none =>
    rw [whole] at here
    cases here
  | some whole' =>
    rw [whole] at here
    exact HostType.getElem?_succ_visits here

theorem above?_of_getElem?_visits {bound : HostType} {part : Target} {steps : Nat}
    (here : (host.visits object)[steps]? = some (bound, part)) :
    (host.typeOf object).above? steps = some bound := by
  rw [getElem?_visits, Viewing.above?_eq] at here
  obtain ⟨viewing, above, found⟩ := Option.bind_eq_some_iff.mp here
  obtain ⟨bound', type, rfl⟩ := Option.map_eq_some_iff.mp above
  obtain ⟨whole, -, found⟩ := Option.bind_eq_some_iff.mp found
  obtain ⟨target, -, found⟩ := Option.bind_eq_some_iff.mp found
  obtain ⟨rfl, -⟩ := Prod.mk.inj (Option.some.inj found)
  exact type

/-- A walk does not come to a supertype exactly if the instance is held exclusively or a step on the
way there does not apply. -/
theorem getElem?_visits_eq_none_iff {steps : Nat}
    (exists_above : ((host.typeOf object).above? steps).isSome = true) :
    (host.visits object)[steps]? = none ↔ host.borrowOf object = .exclusive ∨
      ∃ nearer < steps, ∃ parent own part,
        (host.visits object)[nearer]? = some (.extend parent own, part) ∧
          (HostType.upcast parent own).view part = none := by
  constructor
  · intro missing
    by_contra reachable
    push Not at reachable
    obtain ⟨shared, applies⟩ := reachable
    -- Step by step the walk comes to every type up to the one in question.
    have comes : ∀ nearer ≤ steps, ((host.visits object)[nearer]?).isSome = true := by
      intro nearer le
      induction nearer with
      | zero =>
        rw [getElem?_zero_visits, Option.isSome_map, Option.isSome_iff_ne_none]
        exact fun held => shared ((host.borrow?_eq_none_iff object).mp held)
      | succ nearer ih =>
        obtain ⟨⟨bound, part⟩, here⟩ := Option.isSome_iff_exists.mp (ih (by omega))
        rw [HostType.isSome_above?] at exists_above
        have higher := (HostType.isSome_above? (host.typeOf object) (nearer + 1)).mpr (by omega)
        rw [HostType.above?_succ, above?_of_getElem?_visits here, Option.bind_some] at higher
        cases bound with
        | root => cases higher
        | extend parent own =>
          have step := applies nearer (by omega) parent own part here
          rw [getElem?_succ_visits here, HostType.next, Option.isSome_map,
            Option.isSome_iff_ne_none]
          exact step
    have present := comes steps (Nat.le_refl steps)
    rw [missing] at present
    cases present
  · rintro (held | ⟨nearer, less, parent, own, part, here, stops⟩)
    · rw [visits, (host.borrow?_eq_none_iff object).mpr held]
      rfl
    · have beyond := getElem?_succ_visits here
      rw [HostType.next, stops, Option.map_none, List.getElem?_eq_none_iff] at beyond
      exact List.getElem?_eq_none (Nat.le_trans beyond less)

end Host

/-! ## Changing what the hooks see -/

namespace Host

variable {host : Host} {object : Handle}

/-- The whole instance behind an object can be changed. -/
structure BorrowedMut (host : Host) (object : Handle) (opened : Opened Host) : Prop where
  free : host.borrowOf object = .free
  whole : host.borrow? object = some opened.target
  typeOf : ∀ parts, (opened.putBack parts).typeOf object = host.typeOf object
  borrow? : ∀ parts, (opened.putBack parts).borrow? object = some parts

theorem borrowedMut_of_borrowMut? {opened : Opened Host}
    (borrowed : host.borrowMut? object = some opened) : host.BorrowedMut object opened := by
  rw [borrowMut?] at borrowed
  cases found : host.instance? object with
  | none => simp [found] at borrowed
  | some whole =>
    simp only [found] at borrowed
    split at borrowed
    · next free =>
      obtain rfl := Option.some.inj borrowed
      constructor
      · simp [borrowOf, found, free]
      · simp [borrow?, found, free]
      · intro parts
        simp [typeOf, instance?_modify, found]
      · intro parts
        simp [borrow?, instance?_modify, found, free]
    · cases borrowed

theorem exists_borrowMut? (free : host.borrowOf object = .free) :
    ∃ opened, host.borrowMut? object = some opened := by
  rw [borrowOf] at free
  rw [borrowMut?]
  cases found : host.instance? object with
  | none => simp [found] at free
  | some whole => exact ⟨_, if_pos (by simpa [found] using free)⟩

variable {steps : Nat} {viewing : Viewing}
  (above : Viewing.above? host object steps = some viewing)
include above

/-- What an accessor changes is what the hooks of its type are handed, then and afterwards. -/
theorem exists_putBack (free : host.borrowOf object = .free) {bound : HostType} {part : Target}
    (here : (host.visits object)[steps]? = some (bound, part)) :
    ∃ putBack : Target → Host,
      (∀ {α : Type} (run : Target → Option (α × Target)),
        viewing.withTargetMut host run = (run part).map fun ran => (ran.1, putBack ran.2)) ∧
      ∀ changed, ((putBack changed).visits object)[steps]? = some (bound, changed) := by
  rw [Viewing.above?_eq] at above
  obtain ⟨bound', type, rfl⟩ := Option.map_eq_some_iff.mp above
  obtain ⟨opened, borrowed⟩ := exists_borrowMut? free
  have able := borrowedMut_of_borrowMut? borrowed
  simp only [visits, able.whole, HostType.getElem?_visits, type, Option.bind_some] at here
  obtain ⟨target, viewed, same⟩ := Option.map_eq_some_iff.mp here
  obtain ⟨rfl, rfl⟩ := Prod.mk.inj same
  rw [← Upcast.same] at viewed
  obtain ⟨inner, opens, rfl⟩ := Option.map_eq_some_iff.mp viewed
  refine ⟨fun changed => opened.putBack (inner.putBack changed), ?_, ?_⟩
  · intro α run
    rw [Viewing.withTargetMut]
    simp only [borrowed, opens, Option.bind_eq_bind, Option.bind_some]
    cases run inner.target <;> rfl
  · intro changed
    simp only [visits, able.borrow?, able.typeOf, HostType.getElem?_visits, type,
      Option.bind_some, Upcast.view_putBack _ opens, Option.map_some]

/-- What the hooks are not handed cannot be changed either, and nothing that is held. -/
theorem withTargetMut_eq_none (missing : host.borrowOf object ≠ .free ∨
    (host.visits object)[steps]? = none) {α : Type} (run : Target → Option (α × Target)) :
    viewing.withTargetMut host run = none := by
  rw [Viewing.above?_eq] at above
  obtain ⟨bound, type, rfl⟩ := Option.map_eq_some_iff.mp above
  rw [Viewing.withTargetMut]
  cases borrowed : host.borrowMut? object with
  | none => rfl
  | some opened =>
    have able := borrowedMut_of_borrowMut? borrowed
    have unseen := missing.resolve_left fun held => held able.free
    simp only [visits, able.whole, HostType.getElem?_visits, type, Option.bind_some,
      Option.map_eq_none_iff, ← Upcast.same] at unseen
    simp only [Option.bind_eq_bind, Option.bind_some, unseen, Option.bind_none]

end Host

/-! ## The same parts -/

namespace Host

variable (host : Host) (object : Handle)

/-- What the walks up an object hand to the hooks of its types is what the accessors of these types
view. -/
structure SharesParts : Prop where
  /-- A walk visits types with their parts until a visit finds something. -/
  walks : ∀ {α : Type} (visit : HostType → Target → Option α),
    host.walk object visit = (host.visits object).findSome? fun visited =>
      visit visited.1 visited.2
  /-- It starts with the whole instance at the concrete type, unless the instance is held
  exclusively. -/
  starts : (host.visits object)[0]? = (host.borrow? object).map (host.typeOf object, ·)
  /-- It goes on with what the next step leads to, and ends at the root type or at the first step
  that does not apply. -/
  goesOn : ∀ {steps bound part}, (host.visits object)[steps]? = some (bound, part) →
    (host.visits object)[steps + 1]? = bound.next part
  /-- The hooks of a type are handed the part that the accessor of that type looks at. -/
  handed : ∀ steps, (host.visits object)[steps]? =
    (Viewing.above? host object steps).bind fun viewing =>
      viewing.withTarget host fun target => some (viewing.type, target)
  /-- Both have no part if the instance is held exclusively or a step on the way there does not
  apply, and in no other case. -/
  missing : ∀ {steps viewing}, Viewing.above? host object steps = some viewing →
    ((host.visits object)[steps]? = none ↔ host.borrowOf object = .exclusive ∨
      ∃ nearer < steps, ∃ parent own part,
        (host.visits object)[nearer]? = some (.extend parent own, part) ∧
          (HostType.upcast parent own).view part = none)
  /-- If the instance is not held, the accessor changes the part that the hooks are handed, and they
  are handed what it was changed to. -/
  changes : host.borrowOf object = .free → ∀ {steps viewing bound part},
    Viewing.above? host object steps = some viewing →
    (host.visits object)[steps]? = some (bound, part) →
    ∃ putBack : Target → Host,
      (∀ {α : Type} (run : Target → Option (α × Target)),
        viewing.withTargetMut host run = (run part).map fun ran => (ran.1, putBack ran.2)) ∧
      ∀ changed, ((putBack changed).visits object)[steps]? = some (bound, changed)
  /-- If it is held, or if the hooks are handed nothing, the accessor changes nothing. -/
  keeps : ∀ {steps viewing}, Viewing.above? host object steps = some viewing →
    host.borrowOf object ≠ .free ∨ (host.visits object)[steps]? = none →
    ∀ {α : Type} (run : Target → Option (α × Target)), viewing.withTargetMut host run = none

/-- The members of an instance that its types declare work on the parts that the accessors of these
types view. -/
structure ServesMembers : Prop where
  read : ∀ {steps viewing}, Viewing.above? host object steps = some viewing →
    ∀ {sort member}, member ∈ viewing.type.own.members sort → member.isStatic = false →
      Accessor.read host object ⟨steps, viewing.type.own, member⟩ =
        viewing.withTarget host (viewing.type.own.onPart (member.get host.surroundings))
  write : ∀ {steps viewing}, Viewing.above? host object steps = some viewing →
    ∀ {sort member}, member ∈ viewing.type.own.members sort → member.isStatic = false →
      ∀ value, Accessor.write host object ⟨steps, viewing.type.own, member⟩ value =
        (member.set?.bind fun set => viewing.withTargetMut host (viewing.type.own.onPartMut
          (set (host.withBorrow object .exclusive).surroundings value))).getD (false, host)
  call : ∀ {steps viewing}, Viewing.above? host object steps = some viewing →
    ∀ {method}, method ∈ viewing.type.own.methods → method.isStatic = false →
      ∀ arguments, Accessor.call host object ⟨steps, viewing.type.own, method⟩ arguments =
        ((viewing.withTargetMut host (viewing.type.own.onPartMut
          (method.call (host.withBorrow object .exclusive).surroundings arguments))).map
            (Prod.map some id)).getD (none, host)

/-- The texts and the elements of an object are those of the first hook up its chain that applies to
its part. -/
structure ServesHooks : Prop where
  display : host.display (.object object) =
    ((host.visits object).findSome? fun visited => visited.1.own.display?.bind fun hook =>
      visited.1.own.onPart
        (hook ⟨Value.display (host.objectTextWithin (host.instances.length - 1)), host.kind⟩)
        visited.2).getD (host.typeName object)
  iterate : host.elements? (.object object) =
    (host.visits object).findSome? fun visited => visited.1.own.iterate?.bind fun hook =>
      visited.1.own.onPart (hook host.surroundings) visited.2
  /-- A loop over a path that leads to the object visits these elements, or none. -/
  loop : ∀ {scope : Scope} {source}, (scope.resolve host source).value.1 = some (.object object) →
    ((Rendering.elementsAt host source).outcome scope).result =
      .ok ((host.elements? (.object object)).getD [])

theorem sharesParts : host.SharesParts object where
  walks := host.walk_eq_findSome? object
  starts := host.getElem?_zero_visits object
  goesOn := getElem?_succ_visits
  handed := host.getElem?_visits object
  missing := by
    intro steps viewing above
    refine getElem?_visits_eq_none_iff ?_
    rw [Viewing.above?_eq] at above
    exact Option.isSome_map ▸ Option.isSome_of_eq_some above
  changes := fun free _ _ _ _ above here => exists_putBack above free here
  keeps := fun above missing _ run => withTargetMut_eq_none above missing run

theorem servesMembers : host.ServesMembers object where
  read := Accessor.read_eq_withTarget
  write := Accessor.write_eq_withTargetMut
  call := Accessor.call_eq_withTargetMut

/-- The first hook that is found is that of the first visited type that has one and whose part it
applies to. -/
theorem firstHook_eq_findSome? {α β : Type} {hook? : Declaration → Option β}
    (noHook : hook? .root = none) (use : β → Slots → α) :
    (host.firstHook object fun declaration => (hook? declaration).map use) =
      (host.visits object).findSome? fun visited =>
        (hook? visited.1.own).bind fun hook => visited.1.own.onPart (use hook) visited.2 := by
  rw [firstHook_eq_walk _ _ (by rw [noHook, Option.map_none]), walk_eq_findSome?]
  congr 1
  funext visited
  rw [Declaration.runHook, Option.bind_map]
  rfl

theorem servesHooks : host.ServesHooks object where
  display := by
    change host.objectTextWithin host.instances.length object = _
    cases count : host.instances.length with
    | zero =>
      have none_there : host.instance? object = none := by
        rw [instance?, List.getElem?_eq_none_iff, count]
        exact Nat.zero_le _
      rw [visits, borrow?, none_there]
      rfl
    | succ depth =>
      rw [objectTextWithin]
      exact congrArg (Option.getD · (host.typeName object))
        (host.firstHook_eq_findSome? object rfl _)
  iterate := host.firstHook_eq_findSome? object rfl _
  loop := by
    intro scope source leads
    rw [Rendering.outcome_elementsAt, leads]
    rfl

/-- **Hooks run where members work.**  However an object is held and however long its chain is: the
hooks of the type so many steps up the chain are handed the part of the instance that the accessor
so many steps up views, which is the part that its members read and change; and the object is shown
and visited by the first hook up the chain that applies. -/
theorem hooks_run_where_members_work :
    host.SharesParts object ∧ host.ServesMembers object ∧ host.ServesHooks object :=
  ⟨host.sharesParts object, host.servesMembers object, host.servesHooks object⟩

/-- A type in the middle of a chain that was not made for the instance: the hooks and members of
what is above it are out of reach, and its own hooks do not apply. -/
theorem hooks_run_where_members_work_misfit :
    let text := some (Formula.slot "n").displayHook
    let base := HostType.extend .root ⟨"Base", 1, [], [], [], text, none, true⟩
    let strange := HostType.extend base ⟨"Strange", 2, [], [], [], text, none, false⟩
    let top := HostType.extend strange
      ⟨"Top", 3, [], [], [], none, some fun _ => iterateSlot "items", true⟩
    let parts : List Slots := [[("items", .list [.int 1])], [("n", .int 2)], [("n", .int 3)]]
    let host : Host := ⟨[⟨top, parts, .free⟩], []⟩
    let object : Handle := ⟨0⟩
    (host.visits object).map (fun visited => (visited.1.name, visited.2.length)) =
        [("Top", 3), ("Strange", 2)] ∧
      (∃ viewing, Viewing.above? host object 2 = some viewing ∧ viewing.type.name = "Base" ∧
        (host.visits object)[2]? = none ∧
        ∀ run : Target → Option (Unit × Target), viewing.withTargetMut host run = none) ∧
      host.display (.object object) = "Top" ∧
      host.elements? (.object object) = some [.int 1] := by
  intro text base strange top parts host object
  obtain ⟨shares, -, serves⟩ := hooks_run_where_members_work host object
  refine ⟨by decide, ⟨_, rfl, by decide, ?_⟩, ?_, ?_⟩
  · have stops : (host.visits object)[2]? = none := by
      refine (shares.missing rfl).mpr (.inr ⟨1, by decide, base, strange.own, parts.tail, ?_, ?_⟩)
      · rfl
      · rfl
    exact ⟨stops, fun run => shares.keeps rfl (.inr stops) run⟩
  · exact serves.display.trans (by decide)
  · exact serves.iterate.trans (by decide)

end Host

end Stencil
