import Stencil.Host.Basic

/-!
# The walk up the parts of an instance

An instance embeds the part that belongs to its supertype, and that part the next one.
What is looked at there is a *target*: a part of the instance with all the parts above it.
A step from a type to its supertype projects a target onto the part above, for looking at
it and for changing it alike (`Upcast`).  Such a step can fail: a projection applies to the
targets that its declaration was made for.

A walk starts with the whole instance at its concrete type.  It visits type after type,
each with the target that the step before has led to, until a visit finds something
(`HostType.walk`).  It ends at the root type or at the first step that does not apply
(`HostType.getElem?_succ_visits`).

The hooks of an object are found by such a walk (`Host.firstHook_eq_walk`).
-/

set_option autoImplicit false

namespace Stencil

/-! ## Steps to the supertype -/

/-- A part of an instance with the parts above it, its own slots first. -/
abbrev Target : Type := List Slots

/-- A target that can be changed, and what becomes of the whole when it is. -/
structure Opened (α : Type) where
  target : Target
  putBack : Target → α

/-- The step from a type to its supertype. -/
structure Upcast where
  view : Target → Option Target
  viewMut : Target → Option (Opened Target)
  /-- What can be changed is what is looked at. -/
  same : ∀ whole, (viewMut whole).map Opened.target = view whole
  /-- A change there is seen there. -/
  view_putBack : ∀ {whole opened}, viewMut whole = some opened →
    ∀ changed, view (opened.putBack changed) = some changed

namespace Upcast

/-- A type that extends the root type is its own root part. -/
def identity : Upcast where
  view := some
  viewMut := fun whole => some ⟨whole, id⟩
  same := fun _ => rfl
  view_putBack := by
    rintro whole opened ⟨⟩ changed
    rfl

/-- The projection onto the part above, of the targets that a declaration was made for. -/
def projection (fits : Bool) : Upcast where
  view := fun whole => if fits then some whole.tail else none
  viewMut := fun whole =>
    if fits then some ⟨whole.tail, fun changed => whole.headD [] :: changed⟩ else none
  same := by
    intro whole
    cases fits <;> rfl
  view_putBack := by
    intro whole opened found changed
    cases fits with
    | false => cases found
    | true =>
      obtain rfl := Option.some.inj found
      rfl

/-- One step after the other. -/
def andThen (first second : Upcast) : Upcast where
  view := fun whole => (first.view whole).bind second.view
  viewMut := fun whole => (first.viewMut whole).bind fun outer =>
    (second.viewMut outer.target).map fun inner => ⟨inner.target, outer.putBack ∘ inner.putBack⟩
  same := by
    intro whole
    rw [← first.same whole]
    cases first.viewMut whole with
    | none => rfl
    | some outer =>
      rw [Option.bind_some, Option.map_some, Option.bind_some, ← second.same, Option.map_map]
      rfl
  view_putBack := by
    intro whole opened found changed
    obtain ⟨outer, opens, found⟩ := Option.bind_eq_some_iff.mp found
    obtain ⟨inner, opensInner, rfl⟩ := Option.map_eq_some_iff.mp found
    dsimp only [Function.comp_apply]
    rw [first.view_putBack opens, Option.bind_some]
    exact second.view_putBack opensInner changed

/-- All of some steps, the first one first. -/
def composed : List Upcast → Upcast
  | [] => .identity
  | upcast :: rest => upcast.andThen (composed rest)

theorem view_composed_cons (upcast : Upcast) (rest : List Upcast) (whole : Target) :
    (composed (upcast :: rest)).view whole =
      (upcast.view whole).bind (composed rest).view := rfl

theorem viewMut_composed_cons (upcast : Upcast) (rest : List Upcast) (whole : Target) :
    (composed (upcast :: rest)).viewMut whole =
      (upcast.viewMut whole).bind fun outer => ((composed rest).viewMut outer.target).map
        fun inner => ⟨inner.target, outer.putBack ∘ inner.putBack⟩ := rfl

end Upcast

namespace HostType

/-- The step that a declaration makes to the type that it extends. -/
def upcast (parent : HostType) (own : Declaration) : Upcast :=
  match parent with
  | .root => .identity
  | .extend _ _ => .projection own.fits

/-- The supertype with the target that the step to it leads to. -/
def next : HostType → Target → Option (HostType × Target)
  | .root, _ => none
  | .extend parent own, target => ((upcast parent own).view target).map (parent, ·)

/-- Visits a type and its supertypes until a visit finds something. -/
def walk {α : Type} (visit : HostType → Target → Option α) : HostType → Target → Option α
  | .root, target => visit .root target
  | .extend parent own, target =>
    match visit (.extend parent own) target with
    | some found => some found
    | none =>
      match (upcast parent own).view target with
      | some above => parent.walk visit above
      | none => none

/-- The types that a walk comes to with their targets, if no visit finds anything. -/
def visits : HostType → Target → List (HostType × Target)
  | .root, target => [(.root, target)]
  | .extend parent own, target =>
    (.extend parent own, target) ::
      match (upcast parent own).view target with
      | some above => parent.visits above
      | none => []

theorem walk_eq_findSome? {α : Type} (visit : HostType → Target → Option α) (type : HostType)
    (target : Target) :
    type.walk visit target = (type.visits target).findSome? fun visited =>
      visit visited.1 visited.2 := by
  induction type generalizing target with
  | root =>
    rw [walk, visits, List.findSome?_cons]
    cases visit .root target <;> rfl
  | extend parent own ih =>
    rw [walk, visits, List.findSome?_cons]
    cases visit (.extend parent own) target with
    | some found => rfl
    | none =>
      cases (upcast parent own).view target with
      | some above => exact ih above
      | none => rfl

theorem getElem?_zero_visits (type : HostType) (target : Target) :
    (type.visits target)[0]? = some (type, target) := by
  cases type <;> rfl

/-- A walk goes on with what the step from the last type leads to. -/
theorem getElem?_succ_visits {type bound : HostType} {target part : Target} {steps : Nat}
    (here : (type.visits target)[steps]? = some (bound, part)) :
    (type.visits target)[steps + 1]? = bound.next part := by
  induction type generalizing target steps with
  | root =>
    cases steps with
    | zero =>
      obtain ⟨rfl, rfl⟩ := Prod.mk.inj (Option.some.inj here)
      rfl
    | succ steps => cases here
  | extend parent own ih =>
    rw [visits, List.getElem?_cons_succ]
    cases steps with
    | zero =>
      obtain ⟨rfl, rfl⟩ := Prod.mk.inj (Option.some.inj here)
      rw [next]
      cases (upcast parent own).view target with
      | some above => exact getElem?_zero_visits parent above
      | none => rfl
    | succ steps =>
      rw [visits, List.getElem?_cons_succ] at here
      cases above : (upcast parent own).view target with
      | some above' =>
        rw [above] at here
        exact ih here
      | none =>
        rw [above] at here
        cases here

/-! ## Supertypes by distance -/

/-- The supertype so many steps up. -/
def above? : HostType → Nat → Option HostType
  | type, 0 => some type
  | .root, _ + 1 => none
  | .extend parent _, steps + 1 => parent.above? steps

theorem above?_succ (type : HostType) (steps : Nat) :
    type.above? (steps + 1) = (type.above? steps).bind HostType.parent? := by
  induction type generalizing steps with
  | root => cases steps <;> rfl
  | extend parent own ih =>
    cases steps with
    | zero => cases parent <;> rfl
    | succ steps => exact ih steps

theorem isSome_above? (type : HostType) (steps : Nat) :
    (type.above? steps).isSome = true ↔ steps < type.chain.length := by
  induction type generalizing steps with
  | root => cases steps <;> simp [above?, chain, ancestors]
  | extend parent own ih =>
    cases steps with
    | zero => simp [above?, chain]
    | succ steps => simpa [above?, chain, ancestors] using ih steps

/-- The steps that lead from a type to the root type. -/
def upcasts : HostType → List Upcast
  | .root => []
  | .extend parent own => upcast parent own :: parent.upcasts

theorem take_succ_upcasts {type parent : HostType} {own : Declaration} {steps : Nat}
    (above : type.above? steps = some (.extend parent own)) :
    type.upcasts.take (steps + 1) = type.upcasts.take steps ++ [upcast parent own] := by
  induction type generalizing steps with
  | root => cases steps <;> cases above
  | extend grandparent declaration ih =>
    cases steps with
    | zero =>
      obtain ⟨rfl, rfl⟩ := HostType.extend.inj (Option.some.inj above)
      rfl
    | succ steps =>
      rw [upcasts, List.take_succ_cons, List.take_succ_cons, ih above, List.cons_append]

/-- A walk hands to each supertype what the steps from the first type lead to. -/
theorem getElem?_visits (type : HostType) (target : Target) (steps : Nat) :
    (type.visits target)[steps]? = (type.above? steps).bind fun bound =>
      ((Upcast.composed (type.upcasts.take steps)).view target).map (bound, ·) := by
  induction type generalizing target steps with
  | root => cases steps <;> rfl
  | extend parent own ih =>
    cases steps with
    | zero => rfl
    | succ steps =>
      rw [visits, List.getElem?_cons_succ, above?, upcasts, List.take_succ_cons,
        Upcast.view_composed_cons]
      cases (upcast parent own).view target with
      | some above => exact ih above steps
      | none => cases parent.above? steps <;> rfl

end HostType

/-! ## Objects -/

/-- The use of the slots of a target that a declaration was made for. -/
def Declaration.onPart {α : Type} (declaration : Declaration) (use : Slots → α)
    (target : Target) : Option α :=
  if declaration.fits then some (use (target.headD [])) else none

/-- The change of the slots of a target that a declaration was made for. -/
def Declaration.onPartMut {α : Type} (declaration : Declaration) (run : Slots → α × Slots)
    (target : Target) : Option (α × Target) :=
  if declaration.fits then
    let (answer, slots) := run (target.headD [])
    some (answer, slots :: target.tail)
  else none

/-- What a walk up a type finds when it looks for hooks of the declarations. -/
def Declaration.runHook {α : Type} (hook? : Declaration → Option (Slots → α)) (visited : HostType)
    (target : Target) : Option α :=
  (hook? visited.own).bind (visited.own.onPart · target)

/-- Hooks are found by a walk. -/
theorem HostType.firstHook_eq_walk {α : Type} {hook? : Declaration → Option (Slots → α)}
    (noHook : hook? .root = none) (type : HostType) (target : Target) :
    type.firstHook hook? target = type.walk (Declaration.runHook hook?) target := by
  have atRoot (part : Target) : HostType.root.walk (Declaration.runHook hook?) part = none := by
    rw [walk, Declaration.runHook, own, noHook, Option.bind_none]
  have runs (parent : HostType) (declaration : Declaration) (part : Target) :
      Declaration.runHook hook? (.extend parent declaration) part =
        if declaration.fits then (hook? declaration).map (· (part.headD [])) else none := by
    rw [Declaration.runHook, own]
    cases hook? declaration <;> simp [Declaration.onPart]
  induction type generalizing target with
  | root => exact (atRoot target).symm
  | extend parent declaration ih =>
    rw [firstHook, walk, runs]
    cases fits : declaration.fits with
    | false =>
      cases parent with
      | root => exact (atRoot target).symm
      | extend => simp [upcast, Upcast.projection, fits]
    | true =>
      cases hook? declaration with
      | some hook => rfl
      | none =>
        cases parent with
        | root => exact (atRoot target).symm
        | extend => simpa [upcast, Upcast.projection, fits] using ih target.tail

namespace Host

/-- The whole instance behind an object, unless it is held exclusively. -/
def borrow? (host : Host) (object : Handle) : Option Target :=
  match host.instance? object with
  | some found => if found.borrow = .exclusive then none else some found.parts
  | none => none

/-- The whole instance behind an object, to be changed, unless it is held. -/
def borrowMut? (host : Host) (object : Handle) : Option (Opened Host) :=
  match host.instance? object with
  | some found =>
    if found.borrow = .free then
      some ⟨found.parts, fun parts => host.modify object fun found => { found with parts }⟩
    else none
  | none => none

/-- Visits the types of an object until a visit finds something. -/
def walk {α : Type} (host : Host) (object : Handle) (visit : HostType → Target → Option α) :
    Option α :=
  (host.borrow? object).bind ((host.typeOf object).walk visit)

/-- The types that a walk up an object comes to with their targets. -/
def visits (host : Host) (object : Handle) : List (HostType × Target) :=
  match host.borrow? object with
  | some whole => (host.typeOf object).visits whole
  | none => []

variable (host : Host) (object : Handle)

theorem walk_eq_findSome? {α : Type} (visit : HostType → Target → Option α) :
    host.walk object visit = (host.visits object).findSome? fun visited =>
      visit visited.1 visited.2 := by
  rw [walk, visits]
  cases host.borrow? object with
  | some whole => exact HostType.walk_eq_findSome? visit _ whole
  | none => rfl

theorem firstHook_eq_walk {α : Type} {hook? : Declaration → Option (Slots → α)}
    (noHook : hook? .root = none) :
    host.firstHook object hook? = host.walk object (Declaration.runHook hook?) := by
  rw [firstHook, walk, borrow?, typeOf]
  cases host.instance? object with
  | none => rfl
  | some found =>
    dsimp only
    split
    · rfl
    · exact HostType.firstHook_eq_walk noHook found.type found.parts

end Host

end Stencil
