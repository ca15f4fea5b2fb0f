import Stencil.Proofs.Scope.Bindings
import Stencil.Proofs.Scope.Lookup

/-!
# What scopes keep is what they would find

A scope is coherent if nothing that it keeps can be told from what would be made
anew: its accessor is the one of its value up to built tables, and every child is a
coherent scope without bindings of the member that it is kept for, or of nothing
where there is no such member (`Coherent`).

Scopes are coherent when they are made and stay so whatever path is followed and
whatever is bound.  In a coherent scope a path leads where it leads in the value with
the bindings alone (`Coherent.value_follow`), so that what is kept cannot be seen.
-/

set_option autoImplicit false

namespace Stencil.Scope

variable {host : Host}

/-! ## Coherent scopes -/

/-- The way to the members of a value, whatever tables have been built. -/
def WayTo (host : Host) (value : Value) : Option Accessor → Prop
  | none => value.asObject? = none
  | some accessor =>
    ∃ handle, value.asObject? = some handle ∧ accessor.SameMembers (.new host handle)

namespace WayTo

theorem new (host : Host) (value : Value) :
    WayTo host value (Scope.new host value).accessor? := by
  rw [Scope.new]
  cases object : value.asObject? with
  | none => exact object
  | some handle => exact ⟨handle, object, .refl _⟩

variable {scope : Scope} (way : WayTo host scope.value scope.accessor?)
include way

/-- Whatever tables have been built, the members are those of the value. -/
theorem value_member (name : String) :
    (scope.member host name).value.1 = scope.value.member? host name := by
  obtain ⟨value, accessor?, locals, children⟩ := scope
  cases accessor? with
  | none => cases value <;> first | rfl | cases way
  | some accessor =>
    obtain ⟨handle, object, same⟩ := way
    cases value with
    | object found =>
      obtain rfl : found = handle := Option.some.inj object
      exact (accessor.value_propertyOrField host name).trans (same.valueNamed?_eq host name)
    | _ => cases object

theorem member (name : String) :
    WayTo host scope.value (scope.member host name).value.2.accessor? := by
  rw [Scope.member]
  split
  · exact way
  · split
    · exact way
    · next accessor bound =>
      rw [bound] at way
      obtain ⟨handle, object, same⟩ := way
      exact ⟨handle, object, (accessor.sameMembers_propertyOrField host name).trans same⟩

end WayTo

/-- Everything that is kept in a scope is what would be made now. -/
inductive Coherent (host : Host) : Scope → Prop
  | intro {scope : Scope} (way : WayTo host scope.value scope.accessor?)
      (value : ∀ {name kept}, Entries.get? scope.children name = some kept →
        kept.value = (scope.value.member? host name).getD .null)
      (unbound : ∀ {name kept}, Entries.get? scope.children name = some kept → kept.locals = [])
      (kept : ∀ {name kept}, Entries.get? scope.children name = some kept → Coherent host kept) :
      Coherent host scope

/-- A scope that can be kept for a member of a value. -/
structure KeptFor (host : Host) (parent : Value) (name : String) (child : Scope) : Prop where
  value : child.value = (parent.member? host name).getD .null
  unbound : child.locals = []
  coherent : Coherent host child

namespace Coherent

/-- A new scope keeps nothing. -/
theorem new (value : Value) : Coherent host (.new host value) := by
  refine .intro (.new host value) ?_ ?_ ?_ <;>
  · intro name kept found
    cases found

theorem way {scope : Scope} (coherent : Coherent host scope) :
    WayTo host scope.value scope.accessor? := by
  cases coherent with
  | intro way => exact way

theorem keptFor {scope child : Scope} {name : String} (coherent : Coherent host scope)
    (found : Entries.get? scope.children name = some child) :
    KeptFor host scope.value name child := by
  cases coherent with
  | intro way value unbound kept => exact ⟨value found, unbound found, kept found⟩

/-- Bindings do not matter for what is kept. -/
theorem of_locals {scope : Scope} (coherent : Coherent host scope)
    (locals : List (String × Value)) : Coherent host { scope with locals } := by
  cases coherent with
  | intro way value unbound kept => exact .intro way value unbound kept

theorem push {scope : Scope} (coherent : Coherent host scope) (name : String) (value : Value) :
    Coherent host (scope.push name value) :=
  coherent.of_locals _

theorem pop {scope : Scope} (coherent : Coherent host scope) (name : String) (value : Value) :
    Coherent host (scope.pop name value).2 := by
  rw [Scope.pop]
  split
  · exact coherent.of_locals _
  · exact coherent

/-! ## Members -/

theorem value_member {scope : Scope} (coherent : Coherent host scope) (name : String) :
    (scope.member host name).value.1 = scope.value.member? host name :=
  coherent.way.value_member name

theorem member {scope : Scope} (coherent : Coherent host scope) (name : String) :
    Coherent host (scope.member host name).value.2 := by
  have same := (agrees_member host scope name).value
  have children := children_member host scope name
  cases coherent with
  | intro way value unbound kept =>
    exact .intro (same ▸ way.member name) (same ▸ children ▸ value) (children ▸ unbound)
      (children ▸ kept)

/-! ## Children -/

/-- The child for a member can be kept for it, whether it was there or is made now. -/
theorem child {scope : Scope} (coherent : Coherent host scope) (name : String) :
    KeptFor host scope.value name (scope.child host name).value.1 := by
  cases found : Entries.get? scope.children name with
  | some child =>
    rw [value_child_of_kept host found]
    exact coherent.keptFor found
  | none =>
    rw [value_child_of_absent host found, coherent.value_member name]
    exact ⟨rfl, rfl, .new _⟩

theorem after_child {scope : Scope} (coherent : Coherent host scope) (name : String) :
    Coherent host (scope.child host name).value.2 := by
  cases found : Entries.get? scope.children name with
  | some child =>
    rw [value_child_of_kept host found]
    exact coherent
  | none =>
    rw [value_child_of_absent host found]
    exact coherent.member name

theorem keep {scope child : Scope} {name : String} (coherent : Coherent host scope)
    (keptFor : KeptFor host scope.value name child) : Coherent host (scope.keep name child) := by
  have kept {other : String} {found : Scope}
      (here : Entries.get? (scope.keep name child).children other = some found) :
      KeptFor host scope.value other found := by
    rw [Scope.keep, Entries.get?_insert] at here
    split at here
    · next same =>
      obtain rfl : child = found := Option.some.inj here
      exact same ▸ keptFor
    · exact coherent.keptFor here
  exact .intro coherent.way (fun here => (kept here).value) (fun here => (kept here).unbound)
    fun here => (kept here).coherent

end Coherent

/-! ## Paths -/

theorem value_follow_step_of_local {scope : Scope} {name : String} {bound : Value}
    (found : scope.local? name = some bound) (rest : Path) :
    (Scope.follow host (.step name rest) scope).value =
      ((Scope.follow host rest (.new host bound)).value.1, scope) := by
  rw [Scope.follow, found]
  rfl

theorem value_follow_step_of_free {scope : Scope} {name : String}
    (free : scope.local? name = none) (rest : Path) :
    (Scope.follow host (.step name rest) scope).value =
      ((Scope.follow host rest (scope.child host name).value.1).value.1,
        (scope.child host name).value.2.keep name
          (Scope.follow host rest (scope.child host name).value.1).value.2) := by
  rw [Scope.follow, free]
  rfl

namespace Coherent

/-- Following a path keeps a scope coherent. -/
theorem follow (path : Path) {scope : Scope} (coherent : Coherent host scope) :
    Coherent host (follow host path scope).value.2 := by
  induction path generalizing scope with
  | this => exact coherent
  | name name =>
    rw [Scope.follow]
    split
    · exact coherent
    · exact coherent.member name
  | step name rest ih =>
    cases found : scope.local? name with
    | some bound =>
      rw [value_follow_step_of_local found]
      exact coherent
    | none =>
      rw [value_follow_step_of_free found]
      -- the child that is kept is the one the rest of the path was followed in
      have same := agrees_follow host rest (scope.child host name).value.1
      have after := agrees_child host scope name
      have child := coherent.child name
      refine (coherent.after_child name).keep ⟨?_, ?_, ih child.coherent⟩
      · rw [same.value, after.value, child.value]
      · rw [same.locals, child.unbound]

/-- In a coherent scope a path leads where it leads in the value with the bindings alone. -/
theorem value_follow (path : Path) {scope : Scope} (coherent : Coherent host scope) :
    (Scope.follow host path scope).value.1 = find host path scope.value scope.locals := by
  induction path generalizing scope with
  | this => rfl
  | name name =>
    rw [Scope.follow, find]
    cases found : scope.local? name with
    | some bound =>
      rw [local?] at found
      rw [found]
      rfl
    | none =>
      rw [local?] at found
      rw [found]
      exact coherent.value_member name
  | step name rest ih =>
    rw [find, base]
    cases found : scope.local? name with
    | some bound =>
      rw [value_follow_step_of_local found, ih (.new bound)]
      rw [local?] at found
      rw [found]
      rfl
    | none =>
      have child := coherent.child name
      rw [value_follow_step_of_free found, ih child.coherent, child.value, child.unbound]
      rw [local?] at found
      rw [found]
      rfl

theorem resolve {scope : Scope} (coherent : Coherent host scope) (text : String) :
    Coherent host (scope.resolve host text).value.2 := by
  rw [value_resolve]
  exact coherent.follow _

/-- A coherent scope gives what looking the path up gives, without anything kept. -/
theorem value_resolve {scope : Scope} (coherent : Coherent host scope) (text : String) :
    (scope.resolve host text).value.1 =
      lookup host scope.value scope.locals (Text.trim text.toList) := by
  rw [Scope.value_resolve, coherent.value_follow, lookup_eq_find]

theorem display {scope : Scope} (coherent : Coherent host scope) (text : String) :
    Coherent host (scope.display host text).value.2 := by
  rw [value_display]
  exact coherent.resolve text

end Coherent

end Stencil.Scope
