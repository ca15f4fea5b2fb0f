import Stencil.Host.Formula
import Stencil.Proofs.Accessor.Chain
import Stencil.Proofs.Accessor.Snapshot
import Stencil.Proofs.Scope.Coherence

/-!
# An object and its snapshot lead to the same values

A path that goes by names alone leads to the same value from an object as from the map
of its members, provided the map holds under each name what the object gives for it
(`Scope.lookup_congr`).  A snapshot of all members is such a map if no type of the
object uses a name for two fields or for two properties, and if every member that
belongs to an instance can read its part (`Accessor.snapshot_agrees`).
-/

set_option autoImplicit false

namespace Stencil

/-- Where the members of two values are the same, so is everything that names lead to. -/
theorem Scope.lookup_congr {host : Host} {left right : Value}
    (same : ∀ name, left.member? host name = right.member? host name)
    (locals : List (String × Value)) {text : List Char} (other : ¬ Path.isThis text) :
    lookup host left locals text = lookup host right locals text := by
  rw [lookup, lookup, if_neg other, if_neg other]
  simp only [base, same]

/-! ## Objects that can be read -/

/-- No type of a chain has two fields or two properties of one name. -/
def HostType.KeepsNamesApart (type : HostType) : Prop :=
  ∀ declaration ∈ type.chain, ∀ sort, ((declaration.members sort).map Member.name).Nodup

/-- Every field and property that belongs to an instance can read the part of its type. -/
def Host.CanRead (host : Host) (object : Handle) : Prop :=
  ∀ steps declaration, (host.typeOf object).chain[steps]? = some declaration →
    ∀ sort, ∀ member ∈ declaration.members sort, member.isStatic = false →
      declaration.fits = true ∧ (host.readable object steps).isSome = true

namespace Accessor

variable {host : Host} {object : Handle}

/-- The levels that a search goes through are types of the object's chain. -/
theorem Of.getElem?_of_mem_searched {accessor : Accessor} (of : Of host object accessor)
    {search : Search} {level : Declaration × Nat} (member : level ∈ accessor.searched search) :
    (host.typeOf object).chain[level.2]? = some level.1 := by
  have all : level ∈ accessor.declarations.zipIdx accessor.steps := by
    rw [searched, List.mem_reverse] at member
    split at member
    · exact member
    · obtain rfl := List.mem_singleton.mp member
      exact List.mem_cons_self
  rw [of.declarations, List.mem_zipIdx_iff_le_and_getElem?_sub, List.getElem?_drop] at all
  rw [← all.2, Nat.add_sub_cancel' all.1]

theorem plain_of_canRead (apart : (host.typeOf object).KeepsNamesApart)
    (canRead : host.CanRead object) {accessor : Accessor} (of : Of host object accessor)
    (search : Search) : accessor.Plain host search where
  apart := fun level member sort =>
    apart level.1 (List.mem_of_getElem? (of.getElem?_of_mem_searched member)) sort
  readable := by
    intro level member sort declared isDeclared
    have place := of.getElem?_of_mem_searched member
    cases static : declared.isStatic with
    | true => simp [read, static]
    | false =>
      obtain ⟨fits, readable⟩ := canRead level.2 level.1 place sort declared isDeclared static
      simp [read, static, fits, of.object_eq, readable]

/-- **A snapshot is what reading finds.**  If no type of an object uses a name for two fields or
for two properties, and every member of the instance can read its part, then a snapshot by any
accessor of the object holds under each name the property of that name or else the field, its names
are those of the permitted fields and properties in the order in which they come up from the
farthest type on, and every path but the word for the value itself leads from the object to what it
leads to from the map of its members. -/
theorem snapshot_agrees (apart : (host.typeOf object).KeepsNamesApart)
    (canRead : host.CanRead object) :
    (∀ accessor, Of host object accessor → ∀ search,
      (∀ name, Entries.get? (accessor.members host search) name =
        (accessor.get host .property search name).value.1.or
          (accessor.get host .field search name).value.1) ∧
      (accessor.members host search).keys =
        ((accessor.farthestFirst search).flatMap (permittedNames search .field) ++
          (accessor.farthestFirst search).flatMap (permittedNames search .property)).eraseDups) ∧
    ∀ text, ¬ Path.isThis (Text.trim text.toList) →
      ((Scope.new host (.object object)).resolve host text).value.1 =
        ((Scope.new host (.map ((Accessor.new host object).members host .all))).resolve host
          text).value.1 := by
  constructor
  · intro accessor of search
    have plain := plain_of_canRead apart canRead of search
    exact ⟨get?_members plain, keys_members plain⟩
  · intro text other
    have plain := plain_of_canRead apart canRead .new .all
    rw [(Scope.Coherent.new _).value_resolve, (Scope.Coherent.new _).value_resolve]
    have same : ∀ name, Value.member? host (.object object) name =
        Value.member? host (.map ((Accessor.new host object).members host .all)) name :=
      fun name => (get?_members plain name).symm
    exact Scope.lookup_congr same [] other

/-- A dog whose own name hides the one of the animal in it, and whose property hides the animal's
field, while the host holds it for reading. -/
theorem snapshot_agrees_shadowing :
    let animal : Declaration :=
      { Declaration.root with
        name := "Animal"
        fields := [.ofFormula "legs" false (.slot "legs") none,
          .ofFormula "name" false (.slot "sound") none]
        properties := [.ofFormula "kind" true (.constant (.string "animal")) none] }
    let dog : Declaration :=
      { Declaration.root with
        name := "Dog"
        fields := [.ofFormula "name" false (.slot "name") none]
        properties :=
          [.ofFormula "legs" false (.concat [.slot "name", .constant (.string "'s")]) none] }
    let host : Host :=
      ⟨[⟨.extend (.extend .root animal) dog,
        [[("name", .string "Rex")], [("legs", .int 4), ("sound", .string "woof")]], .shared⟩], []⟩
    let object : Handle := ⟨0⟩
    let snapshot := (Accessor.new host object).members host .all
    (host.typeOf object).KeepsNamesApart ∧ host.CanRead object ∧
    snapshot.keys = ["legs", "name", "kind"] ∧
    Entries.get? snapshot "legs" = some (.string "Rex's") ∧
    Entries.get? snapshot "name" = some (.string "Rex") ∧
    ((Scope.new host (.object object)).resolve host " THIS.legs ").value.1 =
      ((Scope.new host (.map snapshot)).resolve host " THIS.legs ").value.1 := by
  intro animal dog host object snapshot
  have apart : (host.typeOf object).KeepsNamesApart := by
    intro declaration member sort
    have chain : declaration ∈ [dog, animal, Declaration.root] := member
    simp only [List.mem_cons, List.not_mem_nil, or_false] at chain
    rcases chain with rfl | rfl | rfl <;> cases sort <;> decide
  have canRead : host.CanRead object := by
    intro steps declaration found sort member declared notStatic
    have chain : [dog, animal, Declaration.root][steps]? = some declaration := found
    rcases steps with _ | _ | _ | steps
    · obtain rfl := Option.some.inj chain
      exact ⟨rfl, rfl⟩
    · obtain rfl := Option.some.inj chain
      exact ⟨rfl, rfl⟩
    · obtain rfl := Option.some.inj chain
      exact ⟨rfl, rfl⟩
    · cases chain
  obtain ⟨members, paths⟩ := snapshot_agrees apart canRead
  obtain ⟨values, keys⟩ := members _ .new .all
  exact ⟨apart, canRead, keys.trans (by decide), (values "legs").trans (by decide +kernel),
    (values "name").trans (by decide +kernel), paths " THIS.legs " (by decide)⟩

end Accessor

end Stencil
