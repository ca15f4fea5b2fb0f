import Mathlib.Data.List.Nodup
import Stencil.Accessor.Snapshot
import Stencil.Proofs.Accessor.Tables
import Stencil.Proofs.Data.Entries

/-!
# A snapshot holds what reading finds

A snapshot is made from the farthest type to the nearest, later members over earlier
ones, while reading a member searches from the nearest type to the farthest and stops
at the first.  Both go through the same levels of a chain in opposite directions: the
snapshot is made by inserting a list of pairs (`members_eq_ofPairs`), and the last pair
of a name is that of the nearest member which can be read, as long as no declaration uses a
name twice (`get?_contributions`).  That is the first find of the search if that one can be
read (`readableValue?_eq_valueOf?`).
-/

set_option autoImplicit false

namespace Stencil

/-! ## Searching a chain -/

/-- A search up a chain is a search through its declarations and their distances. -/
theorem locate_eq {α : Type} (inherited : Bool) (find? : Declaration → Option α) (steps : Nat)
    (declaration : Declaration) (rest : List Declaration) :
    locate inherited find? steps (declaration :: rest) =
      ((if inherited then declaration :: rest else [declaration]).zipIdx steps).findSome?
        fun level => (find? level.1).map fun found => ⟨level.2, level.1, found⟩ := by
  induction rest generalizing steps declaration with
  | nil =>
    rw [locate, ite_self, List.zipIdx_singleton, List.findSome?_singleton]
    cases find? declaration with
    | some found => rfl
    | none => cases inherited <;> rfl
  | cons next rest ih =>
    rw [locate]
    cases inherited with
    | false =>
      simp only [Bool.false_eq_true, if_false, List.zipIdx_singleton, List.findSome?_singleton]
      cases find? declaration <;> rfl
    | true =>
      simp only [if_true, List.zipIdx_cons, List.findSome?_cons] at ih ⊢
      cases find? declaration with
      | some found => rfl
      | none => exact ih (steps + 1) next

/-- The first thing that can be made of a find is what the first find is made into, if something can
be made of that one. -/
theorem findSome?_bind {α β γ : Type} {levels : List α} {find? : α → Option β}
    {make? : β → Option γ}
    (makes : ∀ found, levels.findSome? find? = some found → (make? found).isSome) :
    (levels.findSome? fun level => (find? level).bind make?) =
      (levels.findSome? find?).bind make? := by
  induction levels with
  | nil => rfl
  | cons level rest ih =>
    rw [List.findSome?_cons] at makes ⊢
    rw [List.findSome?_cons]
    cases found : find? level with
    | none =>
      rw [found] at makes
      exact ih makes
    | some first =>
      rw [found] at makes
      obtain ⟨made, make⟩ := Option.isSome_iff_exists.mp (makes first rfl)
      simp only [Option.bind_some, make]

namespace Accessor

/-! ## What each level contributes -/

section Level

variable (host : Host) (object : Handle) (search : Search)

/-- The value of a member of a declaration so many steps up, if a search permits it. -/
def valueAt? (level : Declaration × Nat) (member : Member) : Option Value :=
  if search.permits member.isStatic then read host object ⟨level.2, level.1, member⟩ else none

/-- The names and values that a declaration so many steps up contributes. -/
def contributions (sort : MemberSort) (level : Declaration × Nat) : Entries Value :=
  (level.1.members sort).filterMap fun member =>
    (valueAt? host object search level member).map (member.name, ·)

/-- The names of the members that a search permits. -/
def permittedNames (sort : MemberSort) (declaration : Declaration) : List String :=
  ((declaration.members sort).filter fun member => search.permits member.isStatic).map Member.name

end Level

variable {host : Host} {object : Handle} {search : Search}

theorem addMembers_eq_foldl (sort : MemberSort) (entries : Entries Value)
    (level : Declaration × Nat) :
    addMembers host object search sort entries level =
      (contributions host object search sort level).foldl
        (fun entries pair => entries.insert pair.1 pair.2) entries := by
  rw [addMembers, contributions, List.foldl_filterMap]
  congr 1
  funext entries member
  rw [addMember, valueAt?]
  split
  · cases read host object ⟨level.2, level.1, member⟩ <;> rfl
  · rfl

/-- A snapshot is made by inserting what the levels contribute, fields first. -/
theorem members_eq_ofPairs (accessor : Accessor) (search : Search) :
    accessor.members host search =
      .ofPairs ((accessor.searched search).flatMap
          (contributions host accessor.object search .field) ++
        (accessor.searched search).flatMap
          (contributions host accessor.object search .property)) := by
  have adds (sort : MemberSort) :
      addMembers host accessor.object search sort = fun entries level =>
        (contributions host accessor.object search sort level).foldl
          (fun entries pair => entries.insert pair.1 pair.2) entries := by
    funext entries level
    exact addMembers_eq_foldl sort entries level
  rw [members, Entries.ofPairs, List.foldl_append, List.foldl_flatMap, List.foldl_flatMap,
    adds, adds]

/-- A level contributes under a name what its declaration lets the search find. -/
theorem get?_reverse_contributions {sort : MemberSort} {level : Declaration × Nat}
    (apart : ((level.1.members sort).map Member.name).Nodup) (name : String) :
    Entries.get? (contributions host object search sort level).reverse name =
      ((level.1.member? sort search name).map fun found => ⟨level.2, level.1, found⟩).bind
        (read host object) := by
  have reversed : ((level.1.members sort).reverse.map Member.name).Nodup := by
    rw [List.map_reverse]
    exact List.nodup_reverse.mpr apart
  rw [contributions, ← List.filterMap_reverse, Entries.get?_filterMap reversed,
    Declaration.member?]
  cases (level.1.members sort).reverse.find? fun member => member.name = name with
  | none => rfl
  | some member =>
    simp only [Option.bind_some, valueAt?]
    split <;> rfl

/-! ## The nearest readable member -/

/-- The value of the nearest member of a name that can be read. -/
def readableValue? (host : Host) (accessor : Accessor) (sort : MemberSort) (search : Search)
    (name : String) : Option Value :=
  (accessor.searched search).reverse.findSome? fun level =>
    ((level.1.member? sort search name).map fun found => ⟨level.2, level.1, found⟩).bind
      (read host accessor.object)

/-- The last pair of a name that the levels contribute is that of the nearest readable member. -/
theorem get?_contributions {accessor : Accessor} {sort : MemberSort}
    (apart : ∀ level ∈ accessor.searched search, ((level.1.members sort).map Member.name).Nodup)
    (name : String) :
    Entries.get? ((accessor.searched search).flatMap
        (contributions host accessor.object search sort)).reverse name =
      accessor.readableValue? host sort search name := by
  rw [List.reverse_flatMap, Entries.get?_flatMap, readableValue?, ← List.head?_filterMap,
    ← List.head?_filterMap]
  congr 1
  refine List.filterMap_congr fun level member => ?_
  exact get?_reverse_contributions (apart level (List.mem_reverse.mp member)) name

/-- A snapshot holds under each name the nearest readable property, or else the nearest readable
field. -/
theorem get?_members_of_apart {accessor : Accessor}
    (apart : ∀ level ∈ accessor.searched search, ∀ sort,
      ((level.1.members sort).map Member.name).Nodup) (name : String) :
    Entries.get? (accessor.members host search) name =
      (accessor.readableValue? host .property search name).or
        (accessor.readableValue? host .field search name) := by
  rw [members_eq_ofPairs, Entries.get?_ofPairs, List.reverse_append, Entries.get?_append,
    get?_contributions fun level member => apart level member .property,
    get?_contributions fun level member => apart level member .field]

/-- The levels that a search goes through, the nearest first. -/
theorem reverse_searched (accessor : Accessor) (search : Search) :
    (accessor.searched search).reverse =
      (if search.inherited then accessor.declarations else [accessor.bound.declaration]).zipIdx
        accessor.steps := by
  rw [searched, List.reverse_reverse]

theorem member?_eq_findSome? (accessor : Accessor) (sort : MemberSort) (search : Search)
    (name : String) :
    accessor.member? sort search name =
      (accessor.searched search).reverse.findSome? fun level =>
        (level.1.member? sort search name).map fun found => ⟨level.2, level.1, found⟩ := by
  rw [reverse_searched]
  exact locate_eq search.inherited _ accessor.steps accessor.bound.declaration
    (accessor.ancestors.map Link.declaration)

/-- The nearest readable member is the nearest one if that can be read. -/
theorem readableValue?_eq_valueOf? {accessor : Accessor} {sort : MemberSort} {name : String}
    (readable : ∀ located, accessor.member? sort search name = some located →
      (read host accessor.object located).isSome) :
    accessor.readableValue? host sort search name = accessor.valueOf? host sort search name := by
  rw [member?_eq_findSome?] at readable
  rw [readableValue?, findSome?_bind readable, ← member?_eq_findSome?, valueOf?]

/-! ## Chains that can be read -/

/-- Every level that a search goes through keeps its names apart, and what it declares can be
read. -/
structure Plain (host : Host) (accessor : Accessor) (search : Search) : Prop where
  apart : ∀ level ∈ accessor.searched search, ∀ sort,
    ((level.1.members sort).map Member.name).Nodup
  readable : ∀ level ∈ accessor.searched search, ∀ sort, ∀ member ∈ level.1.members sort,
    (read host accessor.object ⟨level.2, level.1, member⟩).isSome

theorem mem_members_of_member? {declaration : Declaration} {sort : MemberSort} {name : String}
    {member : Member} (found : declaration.member? sort search name = some member) :
    member ∈ declaration.members sort := by
  rw [Declaration.member?] at found
  split at found
  · next other named =>
    split at found
    · obtain rfl := Option.some.inj found
      exact List.mem_reverse.mp (List.mem_of_find?_eq_some named)
    · cases found
  · cases found

theorem Plain.isSome_read {accessor : Accessor} (plain : accessor.Plain host search)
    {sort : MemberSort} {name : String} {located : Located Member}
    (found : accessor.member? sort search name = some located) :
    (read host accessor.object located).isSome := by
  rw [member?_eq_findSome?] at found
  obtain ⟨level, member, here⟩ := List.exists_of_findSome?_eq_some found
  obtain ⟨declared, finds, rfl⟩ := Option.map_eq_some_iff.mp here
  exact plain.readable level (List.mem_reverse.mp member) sort declared
    (mem_members_of_member? finds)

/-- A snapshot holds under each name the property of that name, or else the field. -/
theorem get?_members {accessor : Accessor} (plain : accessor.Plain host search) (name : String) :
    Entries.get? (accessor.members host search) name =
      (accessor.valueOf? host .property search name).or
        (accessor.valueOf? host .field search name) := by
  rw [get?_members_of_apart plain.apart, readableValue?_eq_valueOf? fun _ => plain.isSome_read,
    readableValue?_eq_valueOf? fun _ => plain.isSome_read]

/-! ## The order of a snapshot -/

theorem keys_contributions {sort : MemberSort} {level : Declaration × Nat}
    (readable : ∀ member ∈ level.1.members sort,
      (read host object ⟨level.2, level.1, member⟩).isSome) :
    (contributions host object search sort level).map Prod.fst =
      permittedNames search sort level.1 := by
  rw [contributions, permittedNames]
  generalize level.1.members sort = declared at readable ⊢
  induction declared with
  | nil => rfl
  | cons member rest ih =>
    obtain ⟨value, here⟩ := Option.isSome_iff_exists.mp (readable member List.mem_cons_self)
    have later := ih fun other later => readable other (List.mem_cons_of_mem member later)
    cases permitted : search.permits member.isStatic with
    | false => simpa [valueAt?, permitted] using later
    | true => simpa [valueAt?, permitted, here] using later

/-- What the types declare that a search goes through, the farthest first. -/
def farthestFirst (accessor : Accessor) (search : Search) : List Declaration :=
  if search.inherited then accessor.declarations.reverse else [accessor.bound.declaration]

theorem map_fst_searched (accessor : Accessor) (search : Search) :
    (accessor.searched search).map Prod.fst = accessor.farthestFirst search := by
  rw [searched, farthestFirst, List.map_reverse, List.zipIdx_map_fst]
  split <;> rfl

/-- The names of a snapshot are those of the permitted fields and then of the permitted properties,
from the farthest type to the nearest, each where it comes up first. -/
theorem keys_members {accessor : Accessor} (plain : accessor.Plain host search) :
    (accessor.members host search).keys =
      ((accessor.farthestFirst search).flatMap (permittedNames search .field) ++
        (accessor.farthestFirst search).flatMap (permittedNames search .property)).eraseDups := by
  have keys (sort : MemberSort) :
      ((accessor.searched search).flatMap (contributions host accessor.object search sort)).map
          Prod.fst =
        (accessor.farthestFirst search).flatMap (permittedNames search sort) := by
    rw [List.map_flatMap, ← map_fst_searched, List.flatMap_map]
    exact List.flatMap_congr fun level member =>
      keys_contributions (plain.readable level member sort)
  rw [members_eq_ofPairs, Entries.keys_ofPairs, List.map_append, keys, keys]

end Accessor

end Stencil
