import Stencil.Proofs.Accessor.Chain
import Stencil.Proofs.Scope.Tree

/-!
# Paths through a name that is not there

A value has members of the names it declares: the keys of a map, and the names of the
fields and properties that the types of an object declare.  A declared member may give
no value at the moment, but a name that is not declared never gives one
(`Value.member?_of_not_declares`).

A path through such a name is followed in a scope of nothing, whether the scope is made
now or was made before (`Scope.KeepsAbsence`).  Nothing has no members, so that the path
leads nowhere, with one exception: a path that ends in the word for the value itself
leads to that nothing, as if the null value stood there (`Scope.value_follow_absent`).
-/

set_option autoImplicit false

namespace Stencil

/-! ## Names that are not declared -/

/-- A map has a key of a name, or a type of an object declares a field or a property of it. -/
def Value.Declares (host : Host) : Value → String → Prop
  | .map entries, name => (Entries.get? entries name).isSome
  | .object handle, name =>
    ∃ declaration ∈ (host.typeOf handle).chain, ∃ sort, ∃ member ∈ declaration.members sort,
      member.name = name
  | _, _ => False

/-- Nothing is found up a chain in which nothing can be found. -/
theorem locate_eq_none {α : Type} {find? : Declaration → Option α} {declarations : List Declaration}
    (absent : ∀ declaration ∈ declarations, find? declaration = none) (inherited : Bool)
    (steps : Nat) : locate inherited find? steps declarations = none := by
  induction declarations generalizing steps with
  | nil => rfl
  | cons declaration rest ih =>
    rw [locate, absent declaration List.mem_cons_self]
    dsimp only
    rw [ih fun other member => absent other (List.mem_cons_of_mem declaration member), ite_self]

theorem Declaration.member?_eq_none {declaration : Declaration} {sort : MemberSort} {name : String}
    (absent : ∀ member ∈ declaration.members sort, member.name ≠ name) (search : Search) :
    declaration.member? sort search name = none := by
  have unfound : ((declaration.members sort).reverse.find? fun member => member.name = name) =
      none := by
    rw [List.find?_eq_none]
    intro member isDeclared same
    exact absent member (List.mem_reverse.mp isDeclared) (of_decide_eq_true same)
  rw [member?, unfound]

namespace Value

variable {host : Host} {value : Value} {name : String}

theorem not_declares_null : ¬ Declares host .null name :=
  id

/-- What is declared depends on the types of objects alone. -/
theorem declares_iff_of_typeOf {other : Host} (same : other.typeOf = host.typeOf) :
    value.Declares other name ↔ value.Declares host name := by
  cases value <;> simp only [Declares, same]

/-- There is no member of a name that is not declared. -/
theorem member?_of_not_declares (undeclared : ¬ value.Declares host name) :
    value.member? host name = none := by
  cases value with
  | map entries => exact Option.not_isSome_iff_eq_none.mp undeclared
  | object handle =>
    have unfound (sort : MemberSort) :
        (Accessor.new host handle).valueOf? host sort .all name = none := by
      have absent : ∀ declaration ∈ (Accessor.new host handle).declarations,
          declaration.member? sort .all name = none := by
        intro declaration onChain
        rw [Accessor.Of.declarations_new] at onChain
        refine Declaration.member?_eq_none (fun member isDeclared same => undeclared ?_) .all
        exact ⟨declaration, onChain, sort, member, isDeclared, same⟩
      rw [Accessor.valueOf?, Accessor.member?, locate_eq_none absent, Option.bind_none]
    rw [member?, Accessor.valueNamed?, unfound, unfound, Option.or_none]
  | _ => rfl

end Value

/-- The last name of a path is the word for the value itself. -/
def Path.endsInThis : Path → Bool
  | .this => true
  | .name _ => false
  | .step _ rest => rest.endsInThis

namespace Scope

variable {host : Host} {scope : Scope}

/-! ## What is kept for them -/

/-- A node for a name that the value above does not declare is one of nothing. -/
def KeepsAbsence (host : Host) (scope : Scope) : Prop :=
  ∀ address name above kept, scope.node? address = some above →
    scope.node? (address ++ [name]) = some kept → ¬ above.value.Declares host name →
      kept.value = .null

namespace KeepsAbsence

theorem new (value : Value) : KeepsAbsence host (.new host value) := by
  intro address name above kept foundAbove found
  cases address <;> cases found

/-- A member that is not declared has a child of nothing, kept or new. -/
theorem value_child (keeps : KeepsAbsence host scope) (sound : Sound host scope) {name : String}
    (undeclared : ¬ scope.value.Declares host name) :
    (scope.child host name).value.1.value = .null := by
  cases found : Entries.get? scope.children name with
  | some child =>
    rw [value_child_of_kept host found]
    refine keeps [] name scope child rfl ?_ undeclared
    rw [List.nil_append, node?, found]
    rfl
  | none =>
    rw [value_child_of_absent host found, sound.way.value_member,
      Value.member?_of_not_declares undeclared]
    rfl

/-- What is kept below a child is kept below the scope. -/
theorem child (keeps : KeepsAbsence host scope) (name : String) :
    KeepsAbsence host (scope.child host name).value.1 := by
  cases found : Entries.get? scope.children name with
  | some child =>
    have below (names : List String) : scope.node? (name :: names) = child.node? names := by
      rw [node?, found, Option.bind_some]
    rw [value_child_of_kept host found]
    intro address last above kept foundAbove
    rw [← below] at foundAbove ⊢
    exact keeps (name :: address) last above kept foundAbove
  | none =>
    rw [value_child_of_absent host found]
    exact .new _

end KeepsAbsence

/-! ## Where paths through them lead -/

/-- In nothing only the word for the value itself leads somewhere. -/
theorem value_follow_null {path : Path} (keeps : KeepsAbsence host scope)
    (sound : Sound host scope) (null : scope.value = .null) (unbound : scope.locals = []) :
    (follow host path scope).value.1 = if path.endsInThis then some .null else none := by
  induction path generalizing scope with
  | this => exact congrArg some null
  | name name =>
    rw [value_follow_name sound (free_of_unbound unbound [name] name rfl), null]
    rfl
  | step name rest ih =>
    obtain ⟨child, childUnbound, -⟩ := sound.child name
    have undeclared : ¬ scope.value.Declares host name := null ▸ Value.not_declares_null
    rw [value_follow_step_of_free (free_of_unbound unbound [name] name rfl)]
    exact ih (keeps.child name) child (keeps.value_child sound undeclared) childUnbound

/-- A path that starts with an unbound name that the value does not declare leads nowhere, unless it
ends in the word for the value itself. -/
theorem value_follow_absent {path : Path} {head : String} (keeps : KeepsAbsence host scope)
    (sound : Sound host scope) (starts : path.head? = some head)
    (free : scope.local? head = none) (undeclared : ¬ scope.value.Declares host head) :
    (follow host path scope).value.1 = if path.endsInThis then some .null else none := by
  cases path with
  | this => cases starts
  | name name =>
    obtain rfl := Option.some.inj starts
    rw [value_follow_name sound free, Value.member?_of_not_declares undeclared]
    rfl
  | step name rest =>
    obtain rfl := Option.some.inj starts
    obtain ⟨child, unbound, -⟩ := sound.child name
    rw [value_follow_step_of_free free]
    exact value_follow_null (keeps.child name) child (keeps.value_child sound undeclared) unbound

/-- The scope in which a path is followed behind some names. -/
def behind (host : Host) : List String → Scope → Scope
  | [], scope => scope
  | name :: names, scope =>
    match scope.local? name with
    | some bound => behind host names (.new host bound)
    | none => behind host names (scope.child host name).value.1

theorem value_follow_behind (names : List String) (rest : Path) (scope : Scope) :
    (follow host (.through names rest) scope).value.1 =
      (follow host rest (behind host names scope)).value.1 := by
  induction names generalizing scope with
  | nil => rfl
  | cons name names ih =>
    rw [Path.through, behind]
    cases found : scope.local? name with
    | some bound =>
      rw [value_follow_step_of_local found]
      exact ih _
    | none =>
      rw [value_follow_step_of_free found]
      exact ih _

/-- Behind some names scopes are sound, keep absence, and have no bindings but those of the first. -/
theorem behind_spec (names : List String) (sound : Sound host scope)
    (keeps : KeepsAbsence host scope) :
    Sound host (behind host names scope) ∧ KeepsAbsence host (behind host names scope) ∧
      (names ≠ [] ∨ scope.locals = [] → (behind host names scope).locals = []) := by
  induction names generalizing scope with
  | nil => exact ⟨sound, keeps, fun unbound => unbound.resolve_left (· rfl)⟩
  | cons name names ih =>
    rw [behind]
    cases scope.local? name with
    | some bound =>
      obtain ⟨after, keepsAfter, unbound⟩ := ih (Sound.new bound) (KeepsAbsence.new bound)
      exact ⟨after, keepsAfter, fun _ => unbound (.inr rfl)⟩
    | none =>
      obtain ⟨child, childUnbound, -⟩ := sound.child name
      obtain ⟨after, keepsAfter, unbound⟩ := ih child (keeps.child name)
      exact ⟨after, keepsAfter, fun _ => unbound (.inr childUnbound)⟩

end Scope

end Stencil
