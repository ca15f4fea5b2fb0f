import Stencil.Proofs.Host.Spot
import Stencil.Proofs.Host.Walk
import Stencil.Accessor.Basic

/-!
# What accessors view of an instance

The accessor of an object is bound to its concrete type.  The accessor of a supertype is
made from that of the type below it, and takes over the steps that have led there with the
one that leads on from there (`Viewing.parent?`).  When it reads or writes a member of the
instance, it takes all these steps anew from the whole instance.

The part that it comes to is the one at its distance, and the members of the instance that
its type declares are read, written and called there (`Accessor.read_eq_withTarget`,
`Accessor.write_eq_withTargetMut`, `Accessor.call_eq_withTargetMut`).
-/

set_option autoImplicit false

namespace Stencil

/-! ## Accessors with their steps -/

/-- An accessor with the type it is bound to and the steps that lead there. -/
structure Viewing where
  accessor : Accessor
  type : HostType
  views : List Upcast

namespace Viewing

/-- The accessor of an object, bound to its concrete type. -/
def new (host : Host) (object : Handle) : Viewing :=
  ⟨.new host object, host.typeOf object, []⟩

/-- The accessor of the same object bound to the immediate supertype. -/
def parent? (viewing : Viewing) : Option Viewing :=
  match viewing.type with
  | .root => none
  | .extend parent own => viewing.accessor.parent?.map fun accessor =>
      ⟨accessor, parent, viewing.views ++ [HostType.upcast parent own]⟩

/-- The accessor so many steps up. -/
def above? (host : Host) (object : Handle) : Nat → Option Viewing
  | 0 => some (new host object)
  | steps + 1 => (above? host object steps).bind parent?

/-- Looks at the part that belongs to the bound type. -/
def withTarget {α : Type} (host : Host) (viewing : Viewing) (look : Target → Option α) :
    Option α := do
  let whole ← host.borrow? viewing.accessor.object
  let target ← (Upcast.composed viewing.views).view whole
  look target

/-- Changes the part that belongs to the bound type. -/
def withTargetMut {α : Type} (host : Host) (viewing : Viewing)
    (run : Target → Option (α × Target)) : Option (α × Host) := do
  let whole ← host.borrowMut? viewing.accessor.object
  let opened ← (Upcast.composed viewing.views).viewMut whole.target
  let (answer, changed) ← run opened.target
  return (answer, whole.putBack (opened.putBack changed))

variable (host : Host) (object : Handle)

/-- The accessor so many steps up is bound to the supertype there, and the steps that it takes are
those that lead there. -/
theorem above?_eq (steps : Nat) :
    above? host object steps = ((host.typeOf object).above? steps).map fun bound =>
      { accessor :=
          ⟨object, steps, .ofDeclaration bound.own, bound.ancestors.map .ofDeclaration⟩
        type := bound
        views := (host.typeOf object).upcasts.take steps } := by
  induction steps with
  | zero =>
    rw [above?, new, Accessor.new]
    cases host.typeOf object <;> rfl
  | succ steps ih =>
    rw [above?, ih, HostType.above?_succ]
    cases above : (host.typeOf object).above? steps with
    | none => rfl
    | some bound =>
      rw [Option.map_some, Option.bind_some, Option.bind_some, parent?]
      cases bound with
      | root => rfl
      | extend parent own =>
        rw [HostType.take_succ_upcasts above]
        rfl

end Viewing

/-! ## Parts by distance -/

/-- An instance with the parts from some distance on replaced. -/
def replaceFrom : Target → Nat → Target → Target
  | _, 0, changed => changed
  | whole, steps + 1, changed => whole.headD [] :: replaceFrom whole.tail steps changed

theorem replaceFrom_cons_tail (slots : Slots) (whole : Target) (steps : Nat) :
    replaceFrom whole steps (slots :: (whole.drop steps).tail) = replacePart slots whole steps := by
  induction steps generalizing whole with
  | zero => rfl
  | succ steps ih =>
    rw [replaceFrom, replacePart, ← ih, List.drop_tail]

/-- The steps to a type with declarations of its own lead to the parts from there on, if every
declaration that they leave was made for the instance. -/
theorem HostType.viewMut_composed {type bound : HostType} {steps : Nat}
    (above : type.above? steps = some bound) (declares : bound ≠ .root) (whole : Target) :
    (Upcast.composed (type.upcasts.take steps)).viewMut whole =
      if ∀ declaration ∈ type.chain.take steps, declaration.fits = true then
        some ⟨whole.drop steps, replaceFrom whole steps⟩
      else none := by
  induction type generalizing steps whole with
  | root =>
    cases steps with
    | zero => exact absurd (Option.some.inj above).symm declares
    | succ steps => cases above
  | extend parent own ih =>
    cases steps with
    | zero => rw [List.take_zero, if_pos (by simp)]; rfl
    | succ steps =>
      rw [above?] at above
      have chain_eq : (extend parent own).chain = own :: parent.chain := rfl
      cases parent with
      | root =>
        cases steps with
        | zero => exact absurd (Option.some.inj above).symm declares
        | succ steps => cases above
      | extend grandparent declaration =>
        rw [upcasts, List.take_succ_cons, Upcast.viewMut_composed_cons, chain_eq,
          List.take_succ_cons, upcast, Upcast.projection]
        cases fits : own.fits with
        | false => simp [fits]
        | true =>
          simp only [if_true, Option.bind_some, ih above, List.forall_mem_cons, fits, true_and,
            List.drop_tail]
          split <;> rfl

/-- What the accessors of an object view is the part at their distance. -/
theorem HostType.view_eq_composed {type bound : HostType} {steps : Nat}
    (above : type.above? steps = some bound) (declares : bound ≠ .root) (whole : Target) :
    type.view whole steps =
      ((Upcast.composed (type.upcasts.take steps)).view whole).map (·.headD []) := by
  have within := (type.isSome_above? steps).mp (Option.isSome_of_eq_some above)
  rw [view_eq, ← Upcast.same, viewMut_composed above declares]
  simp only [within, true_and]
  split
  · simp [List.head?_drop]
  · rfl

namespace Host

variable (host : Host) (object : Handle) (steps : Nat)

/-- Only the instance itself matters for what it is changed to. -/
theorem modify_congr {found : Instance} (here : host.instance? object = some found)
    {first second : Instance → Instance} (same : first found = second found) :
    host.modify object first = host.modify object second := by
  rw [modify, modify]
  congr 1
  refine List.ext_getElem? fun index => ?_
  rw [List.getElem?_modify, List.getElem?_modify]
  split
  · next at_object =>
    rw [instance?, at_object] at here
    rw [here]
    exact congrArg some same
  · rfl

theorem readable_eq_borrow? :
    host.readable object steps =
      (host.borrow? object).bind ((host.typeOf object).view · steps) := by
  rw [readable, borrowOf, view, borrow?, typeOf]
  cases host.instance? object with
  | none => rfl
  | some found =>
    dsimp only
    split <;> rfl

theorem writable_eq_borrowMut? :
    host.writable object steps =
      (host.borrowMut? object).bind fun opened =>
        (host.typeOf object).view opened.target steps := by
  rw [writable, borrowOf, view, borrowMut?, typeOf]
  cases host.instance? object with
  | none => rfl
  | some found =>
    dsimp only
    split <;> rfl

variable {host object}

/-- Putting an instance back with one part replaced replaces that part. -/
theorem putBack_replacePart {opened : Opened Host} (borrowed : host.borrowMut? object = some opened)
    (slots : Slots) :
    opened.putBack (replacePart slots opened.target steps) = host.withPart object steps slots := by
  rw [borrowMut?] at borrowed
  cases found : host.instance? object with
  | none => simp [found] at borrowed
  | some whole =>
    simp only [found] at borrowed
    split at borrowed
    · obtain rfl := Option.some.inj borrowed
      exact modify_congr host object found rfl
    · cases borrowed

end Host

/-! ## Members on the parts that accessors view -/

theorem HostType.ne_root_of_mem_members {type : HostType} {sort : MemberSort} {member : Member}
    (declared : member ∈ type.own.members sort) : type ≠ .root := by
  rintro rfl
  cases sort <;> cases declared

theorem HostType.ne_root_of_mem_methods {type : HostType} {method : Method}
    (declared : method ∈ type.own.methods) : type ≠ .root := by
  rintro rfl
  cases declared

namespace Viewing

variable {α : Type} {host : Host} {object : Handle} {steps : Nat} {viewing : Viewing}
  (above : above? host object steps = some viewing) (declares : viewing.type ≠ .root)
include above declares

/-- What looks at the slots of the bound type is given those of the part at its distance. -/
theorem withTarget_onPart (look : Slots → α) :
    viewing.withTarget host (viewing.type.own.onPart look) =
      if viewing.type.own.fits then (host.readable object steps).map look else none := by
  rw [above?_eq] at above
  obtain ⟨bound, type, rfl⟩ := Option.map_eq_some_iff.mp above
  rw [Host.readable_eq_borrow?, withTarget]
  cases host.borrow? object with
  | none => simp
  | some whole =>
    simp only [Option.bind_eq_bind, Option.bind_some, HostType.view_eq_composed type declares]
    cases (Upcast.composed ((host.typeOf object).upcasts.take steps)).view whole with
    | none => simp
    | some target => rfl

/-- What changes the slots of the bound type changes those of the part at its distance. -/
theorem withTargetMut_onPartMut (run : Slots → α × Slots) :
    viewing.withTargetMut host (viewing.type.own.onPartMut run) =
      if viewing.type.own.fits then
        (host.writable object steps).map fun part =>
          ((run part).1, host.withPart object steps (run part).2)
      else none := by
  rw [above?_eq] at above
  obtain ⟨bound, type, rfl⟩ := Option.map_eq_some_iff.mp above
  rw [Host.writable_eq_borrowMut?, withTargetMut]
  cases borrowed : host.borrowMut? object with
  | none => simp
  | some opened =>
    simp only [Option.bind_eq_bind, Option.bind_some, HostType.view_eq_composed type declares,
      ← Upcast.same, HostType.viewMut_composed type declares]
    split
    · simp only [Option.bind_some, Option.map_some, Declaration.onPartMut,
        ← Host.putBack_replacePart steps borrowed, ← replaceFrom_cons_tail]
      split <;> rfl
    · simp

end Viewing

namespace Accessor

variable {host : Host} {object : Handle} {steps : Nat} {viewing : Viewing}
  (above : Viewing.above? host object steps = some viewing)
include above

/-- A member of the instance is read on the part that its accessor views. -/
theorem read_eq_withTarget {sort : MemberSort} {member : Member}
    (declared : member ∈ viewing.type.own.members sort) (ofInstance : member.isStatic = false) :
    read host object ⟨steps, viewing.type.own, member⟩ =
      viewing.withTarget host (viewing.type.own.onPart (member.get host.surroundings)) := by
  have declares := HostType.ne_root_of_mem_members declared
  rw [viewing.withTarget_onPart above declares, read]
  simp only [ofInstance, Bool.false_eq_true, if_false]

/-- A member of the instance is written on the part that its accessor views, if it has a setter. -/
theorem write_eq_withTargetMut {sort : MemberSort} {member : Member}
    (declared : member ∈ viewing.type.own.members sort) (ofInstance : member.isStatic = false)
    (value : Value) :
    write host object ⟨steps, viewing.type.own, member⟩ value =
      ((member.set?.bind fun set => viewing.withTargetMut host (viewing.type.own.onPartMut
        (set (host.withBorrow object .exclusive).surroundings value))).getD (false, host)) := by
  have declares := HostType.ne_root_of_mem_members declared
  rw [write]
  cases member.set? with
  | none => rfl
  | some set =>
    simp only [ofInstance, Bool.false_eq_true, if_false, Option.bind_some,
      viewing.withTargetMut_onPartMut above declares]
    split
    · cases host.writable object steps <;> rfl
    · rfl

/-- A method of the instance is called on the part that its accessor views. -/
theorem call_eq_withTargetMut {method : Method} (declared : method ∈ viewing.type.own.methods)
    (ofInstance : method.isStatic = false) (arguments : List Value) :
    call host object ⟨steps, viewing.type.own, method⟩ arguments =
      ((viewing.withTargetMut host (viewing.type.own.onPartMut
        (method.call (host.withBorrow object .exclusive).surroundings arguments))).map
          (Prod.map some id)).getD (none, host) := by
  have declares := HostType.ne_root_of_mem_methods declared
  rw [call, viewing.withTargetMut_onPartMut above declares]
  simp only [ofInstance, Bool.false_eq_true, if_false]
  split
  · cases host.writable object steps <;> rfl
  · rfl

end Accessor

end Stencil
