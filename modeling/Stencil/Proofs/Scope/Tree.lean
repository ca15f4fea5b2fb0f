import Stencil.Proofs.Scope.Coherence

/-!
# The tree of a scope

The scope kept for a member has children of its own, so that a scope is the root of a
tree.  A node of the tree is found by its *address*, the names on the way to it
(`Scope.node?`).

Following a path adds nodes and changes no value: whatever was a node before is a node
of the same value afterwards (`Scope.extends_follow`).  It adds the nodes for the names
that the path goes through, if the first of them is not bound, and no others
(`Scope.node?_follow`, `Scope.node?_of_follow`).  A path through a node that is there
leads where the rest of the path leads from that node (`Scope.value_follow_through`).

All this needs no more than that the children have no bindings and that accessors belong
to their values (`Scope.Sound`).  What a child was made for may have changed since.
-/

set_option autoImplicit false

namespace Stencil

/-- The path that goes through some names first. -/
def Path.through : List String → Path → Path
  | [], path => path
  | first :: names, path => .step first (through names path)

theorem Path.through_append (names : List String) (last : String) (rest : Path) :
    through (names ++ [last]) rest = through names (.step last rest) := by
  induction names with
  | nil => rfl
  | cons first names ih => exact congrArg (Path.step first) ih

/-- The first name of a path. -/
def Path.head? : Path → Option String
  | .this => none
  | .name first => some first
  | .step first _ => some first

namespace Scope

/-! ## Nodes -/

/-- The scope kept at an address. -/
def node? : Scope → List String → Option Scope
  | scope, [] => some scope
  | scope, name :: names => (Entries.get? scope.children name).bind fun child => node? child names

/-- The first of some names is not bound in a scope. -/
def Free (scope : Scope) (names : List String) : Prop :=
  ∀ name ∈ names.head?, scope.local? name = none

/-- The children of a scope, and their children, have no bindings, and accessors belong to their
values. -/
inductive Sound (host : Host) : Scope → Prop
  | intro {scope : Scope} (way : WayTo host scope.value scope.accessor?)
      (unbound : ∀ {name kept}, Entries.get? scope.children name = some kept → kept.locals = [])
      (kept : ∀ {name kept}, Entries.get? scope.children name = some kept → Sound host kept) :
      Sound host scope

/-- Every node of one scope is a node of another with the same value. -/
def Extends (before after : Scope) : Prop :=
  ∀ names node, before.node? names = some node →
    ∃ later, after.node? names = some later ∧ later.value = node.value

variable {host : Host} {scope : Scope}

theorem Free.of_append {address names : List String} (free : scope.Free (address ++ names)) :
    scope.Free address := by
  cases address with
  | nil =>
    intro name first
    cases first
  | cons name address => exact free

theorem free_of_unbound (unbound : scope.locals = []) (names : List String) : scope.Free names := by
  intro name first
  rw [local?, unbound]
  rfl

theorem node?_append (scope : Scope) (address names : List String) :
    scope.node? (address ++ names) = (scope.node? address).bind fun node => node.node? names := by
  induction address generalizing scope with
  | nil => rfl
  | cons name address ih =>
    rw [List.cons_append, node?, node?]
    cases Entries.get? scope.children name with
    | none => rfl
    | some child => exact ih child

theorem node?_keep (scope child : Scope) (name first : String) (names : List String) :
    (scope.keep name child).node? (first :: names) =
      if name = first then child.node? names else scope.node? (first :: names) := by
  rw [node?, keep, Entries.get?_insert]
  split
  · rfl
  · rfl

/-- Scopes with the same children have the same nodes below the root. -/
theorem node?_of_children {other : Scope} (same : other.children = scope.children)
    {names : List String} (below : names ≠ []) : other.node? names = scope.node? names := by
  obtain ⟨first, names, rfl⟩ := List.exists_cons_of_ne_nil below
  rw [node?, same, node?]

theorem children_pop (scope : Scope) (name : String) (value : Value) :
    (scope.pop name value).2.children = scope.children := by
  rw [pop]
  split <;> rfl

theorem value_pop (scope : Scope) (name : String) (value : Value) :
    (scope.pop name value).2.value = scope.value := by
  rw [pop]
  split <;> rfl

theorem children_child (scope : Scope) (name : String) :
    (scope.child host name).value.2.children = scope.children := by
  cases kept : Entries.get? scope.children name with
  | some child => rw [value_child_of_kept host kept]
  | none =>
    rw [value_child_of_absent host kept]
    exact children_member host scope name

/-- A new child has no nodes below it, and one that is kept those that are kept. -/
theorem node?_of_child {name : String} {names : List String} {node : Scope} (below : names ≠ [])
    (found : (scope.child host name).value.1.node? names = some node) :
    scope.node? (name :: names) = some node := by
  cases kept : Entries.get? scope.children name with
  | some child =>
    rw [value_child_of_kept host kept] at found
    rw [node?, kept]
    exact found
  | none =>
    rw [value_child_of_absent host kept] at found
    cases names with
    | nil => exact absurd rfl below
    | cons first names => cases found

/-! ## Growing trees -/

namespace Extends

theorem refl (scope : Scope) : scope.Extends scope :=
  fun _ node found => ⟨node, found, rfl⟩

theorem trans {before middle after : Scope} (first : before.Extends middle)
    (second : middle.Extends after) : before.Extends after := by
  intro names node found
  obtain ⟨later, found, same⟩ := first names node found
  obtain ⟨last, found, same'⟩ := second names later found
  exact ⟨last, found, same'.trans same⟩

theorem of_children {before after : Scope} (value : after.value = before.value)
    (children : after.children = before.children) : before.Extends after := by
  rintro (_ | ⟨name, names⟩) node found
  · obtain rfl := Option.some.inj found
    exact ⟨after, rfl, value⟩
  · exact ⟨node, (node?_of_children children (List.cons_ne_nil name names)).trans found, rfl⟩

end Extends

theorem extends_child (scope : Scope) (name : String) :
    scope.Extends (scope.child host name).value.2 :=
  .of_children (agrees_child host scope name).value (children_child scope name)

/-- A child may be put in the place of one that it extends. -/
theorem extends_keep {name : String} {child : Scope}
    (grows : ∀ kept, Entries.get? scope.children name = some kept → kept.Extends child) :
    scope.Extends (scope.keep name child) := by
  rintro (_ | ⟨first, names⟩) node found
  · obtain rfl := Option.some.inj found
    exact ⟨_, rfl, rfl⟩
  · rw [node?_keep]
    split
    · next same =>
      subst same
      rw [node?, Option.bind_eq_some_iff] at found
      obtain ⟨kept, here, found⟩ := found
      exact grows kept here names node found
    · exact ⟨node, found, rfl⟩

/-- Following a path adds nodes and changes no value. -/
theorem extends_follow (path : Path) (scope : Scope) :
    scope.Extends (follow host path scope).value.2 := by
  induction path generalizing scope with
  | this => exact .refl scope
  | name name =>
    rw [follow]
    split
    · exact .refl scope
    · exact .of_children (agrees_member host scope name).value (children_member host scope name)
  | step name rest ih =>
    cases free : scope.local? name with
    | some bound =>
      rw [value_follow_step_of_local free]
      exact .refl scope
    | none =>
      rw [value_follow_step_of_free free]
      refine (extends_child scope name).trans (extends_keep fun kept here => ?_)
      rw [children_child] at here
      rw [value_child_of_kept host here]
      exact ih kept

/-! ## Sound scopes -/

namespace Sound

theorem new (value : Value) : Sound host (.new host value) := by
  refine .intro (.new host value) ?_ ?_ <;>
  · intro name kept found
    cases found

theorem way (sound : Sound host scope) : WayTo host scope.value scope.accessor? := by
  cases sound with
  | intro way => exact way

theorem unbound (sound : Sound host scope) {name : String} {kept : Scope}
    (found : Entries.get? scope.children name = some kept) : kept.locals = [] := by
  cases sound with
  | intro way unbound kept => exact unbound found

theorem kept (sound : Sound host scope) {name : String} {kept : Scope}
    (found : Entries.get? scope.children name = some kept) : Sound host kept := by
  cases sound with
  | intro way unbound kept => exact kept found

/-- A scope with the children of a sound one is sound if its accessor belongs to its value. -/
theorem of_children {other : Scope} (sound : Sound host scope)
    (way : WayTo host other.value other.accessor?) (children : other.children = scope.children) :
    Sound host other :=
  .intro way (children ▸ sound.unbound) (children ▸ sound.kept)

theorem push (sound : Sound host scope) (name : String) (value : Value) :
    Sound host (scope.push name value) :=
  sound.of_children sound.way rfl

theorem pop (sound : Sound host scope) (name : String) (value : Value) :
    Sound host (scope.pop name value).2 := by
  rw [Scope.pop]
  split
  · exact sound.of_children sound.way rfl
  · exact sound

theorem member (sound : Sound host scope) (name : String) :
    Sound host (scope.member host name).value.2 :=
  sound.of_children ((agrees_member host scope name).value ▸ sound.way.member name)
    (children_member host scope name)

theorem child (sound : Sound host scope) (name : String) :
    Sound host (scope.child host name).value.1 ∧ (scope.child host name).value.1.locals = [] ∧
      Sound host (scope.child host name).value.2 := by
  cases found : Entries.get? scope.children name with
  | some child =>
    rw [value_child_of_kept host found]
    exact ⟨sound.kept found, sound.unbound found, sound⟩
  | none =>
    rw [value_child_of_absent host found]
    exact ⟨.new _, rfl, sound.member name⟩

theorem keep {child : Scope} (sound : Sound host scope) (childSound : Sound host child)
    (unbound : child.locals = []) (name : String) : Sound host (scope.keep name child) := by
  have kept {other : String} {found : Scope}
      (here : Entries.get? (scope.keep name child).children other = some found) :
      found.locals = [] ∧ Sound host found := by
    rw [Scope.keep, Entries.get?_insert] at here
    split at here
    · obtain rfl := Option.some.inj here
      exact ⟨unbound, childSound⟩
    · exact ⟨sound.unbound here, sound.kept here⟩
  exact .intro sound.way (fun here => (kept here).1) fun here => (kept here).2

/-- Following a path keeps a scope sound. -/
theorem follow (path : Path) {scope : Scope} (sound : Sound host scope) :
    Sound host (follow host path scope).value.2 := by
  induction path generalizing scope with
  | this => exact sound
  | name name =>
    rw [Scope.follow]
    split
    · exact sound
    · exact sound.member name
  | step name rest ih =>
    cases free : scope.local? name with
    | some bound =>
      rw [value_follow_step_of_local free]
      exact sound
    | none =>
      rw [value_follow_step_of_free free]
      obtain ⟨child, unbound, after⟩ := sound.child name
      exact after.keep (ih child) ((agrees_follow host rest _).locals.trans unbound) name

/-- Soundness depends on the types of objects alone. -/
theorem of_typeOf {other : Host} (same : other.typeOf = host.typeOf) {scope : Scope}
    (sound : Sound host scope) : Sound other scope := by
  have anew : Accessor.new other = Accessor.new host := by
    funext handle
    rw [Accessor.new, same, Accessor.new]
  induction sound with
  | @intro scope way unbound kept ih =>
    refine .intro ?_ unbound ih
    revert way
    cases scope.accessor? with
    | none => exact id
    | some accessor =>
      rw [WayTo, WayTo, anew]
      exact id

/-- The nodes of a sound scope are sound. -/
theorem node? {names : List String} {node : Scope} (sound : Sound host scope)
    (found : scope.node? names = some node) : Sound host node := by
  induction names generalizing scope with
  | nil => exact Option.some.inj found ▸ sound
  | cons name names ih =>
    rw [Scope.node?, Option.bind_eq_some_iff] at found
    obtain ⟨child, here, found⟩ := found
    exact ih (sound.kept here) found

/-- A node below the root has no bindings. -/
theorem locals_node? {address : List String} {name : String} {node : Scope}
    (sound : Sound host scope) (found : scope.node? (address ++ [name]) = some node) :
    node.locals = [] := by
  rw [node?_append, Option.bind_eq_some_iff] at found
  obtain ⟨parent, here, found⟩ := found
  rw [Scope.node?, Option.bind_eq_some_iff] at found
  obtain ⟨kept, below, found⟩ := found
  exact Option.some.inj found ▸ (sound.node? here).unbound below

/-- What is unbound at the root is unbound at a node. -/
theorem free_node? {address names : List String} {node : Scope} (sound : Sound host scope)
    (free : scope.Free (address ++ names)) (found : scope.node? address = some node) :
    node.Free names := by
  rcases List.eq_nil_or_concat address with rfl | ⟨before, last, rfl⟩
  · exact Option.some.inj found ▸ free
  · exact free_of_unbound (sound.locals_node? (by simpa using found)) names

end Sound

/-! ## Nodes and paths -/

/-- A path whose first name is bound leaves the scope as it is. -/
theorem follow_of_bound {path : Path} {name : String} {bound : Value}
    (first : path.head? = some name) (found : scope.local? name = some bound) :
    (follow host path scope).value.2 = scope := by
  cases path with
  | this => cases first
  | name other =>
    obtain rfl := Option.some.inj first
    rw [follow, found]
    rfl
  | step other rest =>
    obtain rfl := Option.some.inj first
    rw [value_follow_step_of_local found]

/-- An unbound name at the end of a path is the member of the value as it is now. -/
theorem value_follow_name (sound : Sound host scope) {name : String}
    (free : scope.local? name = none) :
    (follow host (.name name) scope).value.1 = scope.value.member? host name := by
  rw [follow, free]
  exact sound.way.value_member name

/-- A path through a node leads where its rest leads from that node. -/
theorem value_follow_through {address : List String} {node : Scope} (sound : Sound host scope)
    (free : scope.Free address) (found : scope.node? address = some node) (rest : Path) :
    (follow host (.through address rest) scope).value.1 = (follow host rest node).value.1 := by
  induction address generalizing scope with
  | nil =>
    obtain rfl := Option.some.inj found
    rfl
  | cons name address ih =>
    rw [node?, Option.bind_eq_some_iff] at found
    obtain ⟨child, here, found⟩ := found
    rw [Path.through, value_follow_step_of_free (free name rfl), value_child_of_kept host here]
    exact ih (sound.kept here) (free_of_unbound (sound.unbound here) address) found

/-- A path that goes through an unbound name makes a node for it.  If there was none, its value is
the member of the node above, or nothing if there is no such member. -/
theorem node?_follow {address : List String} {head : String} (sound : Sound host scope)
    (free : scope.Free (address ++ [head])) (rest : Path) :
    ∃ parent child,
      (follow host (.through address (.step head rest)) scope).value.2.node? address =
        some parent ∧
      (follow host (.through address (.step head rest)) scope).value.2.node? (address ++ [head]) =
        some child ∧
      (scope.node? (address ++ [head]) = none →
        child.value = (parent.value.member? host head).getD .null) := by
  -- The induction goes down the address, from each node to the child that the path goes through.
  induction address generalizing scope with
  | nil =>
    have after := agrees_child host scope head
    have child := agrees_follow host rest (scope.child host head).value.1
    rw [Path.through, value_follow_step_of_free (free head rfl)]
    refine ⟨_, _, rfl, (node?_keep _ _ head head []).trans (if_pos rfl), fun absent => ?_⟩
    have unkept : Entries.get? scope.children head = none := by
      simpa [node?, Option.bind_eq_none_iff] using absent
    have made : (scope.child host head).value.1.value =
        (scope.value.member? host head).getD .null := by
      rw [value_child_of_absent host unkept, sound.way.value_member]
      rfl
    exact child.value.trans (made.trans (congrArg (fun value => (value.member? host head).getD .null)
      after.value.symm))
  | cons name address ih =>
    obtain ⟨child, unbound, -⟩ := sound.child name
    obtain ⟨parent, node, above, here, value⟩ := ih child (free_of_unbound unbound _)
    rw [Path.through, value_follow_step_of_free (free name rfl)]
    refine ⟨parent, node, ?_, ?_, fun absent => value ?_⟩
    · rw [node?_keep, if_pos rfl]
      exact above
    · rw [List.cons_append, node?_keep, if_pos rfl]
      exact here
    · by_contra present
      obtain ⟨kept, found⟩ := Option.ne_none_iff_exists'.mp present
      rw [List.cons_append, node?_of_child (by simp) found] at absent
      cases absent

/-- Following a path makes no nodes but those for the names it goes through. -/
theorem node?_of_follow {path : Path} {names : List String} {node : Scope} (below : names ≠ [])
    (found : (follow host path scope).value.2.node? names = some node) :
    (∃ earlier, scope.node? names = some earlier) ∨
      ∃ address head rest, names = address ++ [head] ∧ path = .through address (.step head rest) ∧
        scope.Free names := by
  induction path generalizing scope names with
  | this => exact .inl ⟨node, found⟩
  | name name =>
    rw [follow] at found
    split at found
    · exact .inl ⟨node, found⟩
    · rw [node?_of_children (children_member host scope name) below] at found
      exact .inl ⟨node, found⟩
  | step name rest ih =>
    cases free : scope.local? name with
    | some bound =>
      rw [value_follow_step_of_local free] at found
      exact .inl ⟨node, found⟩
    | none =>
      obtain ⟨first, others, rfl⟩ := List.exists_cons_of_ne_nil below
      rw [value_follow_step_of_free free, node?_keep] at found
      split at found
      · next same =>
        subst same
        have unbound : scope.Free (name :: others) := by
          rintro other ⟨⟩
          exact free
        by_cases last : others = []
        · subst last
          exact .inr ⟨[], name, rest, rfl, rfl, unbound⟩
        · rcases ih last found with ⟨earlier, here⟩ | ⟨address, head, rest', rfl, rfl, -⟩
          · exact .inl ⟨earlier, node?_of_child last here⟩
          · exact .inr ⟨name :: address, head, rest', rfl, rfl, unbound⟩
      · rw [node?_of_children (children_child scope name) below] at found
        exact .inl ⟨node, found⟩

end Scope

end Stencil
