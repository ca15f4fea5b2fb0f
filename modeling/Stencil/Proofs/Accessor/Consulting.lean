import Mathlib.Data.List.Nodup
import Stencil.Accessor.Basic

/-!
# Consulting tables

A type has three tables: of its fields, of its properties and of its methods.  A search
consults one table of each type from the first one up to the one that has an answer, and a
table is built when it is consulted and is not there yet.  So the events of a search are the
records of the tables within reach that are not there (`events_consult`), and afterwards
those are there as well (`builtIn_consult`).
-/

set_option autoImplicit false

namespace Stencil

/-! ## Tables of a type -/

/-- A sort of table that a type has. -/
inductive Table
  | members (sort : MemberSort)
  | methods
  deriving DecidableEq, Repr

/-- The event of building a table of a type. -/
def Table.record : Table → String → Event
  | .members sort, typeName => .indexed sort typeName
  | .methods, typeName => .indexedMethods typeName

/-- Whether a table is among those built. -/
def Built.has (built : Built) : Table → Bool
  | .members .field => built.fields
  | .members .property => built.properties
  | .methods => built.methods

namespace Link

/-- Builds a table unless it is there. -/
def indexTable : Table → Link → Noted Link
  | .members sort => index sort
  | .methods => indexMethods

variable (table : Table) (link : Link)

theorem events_indexTable :
    (link.indexTable table).events =
      if link.built.has table then [] else [table.record link.declaration.name] := by
  rcases table with (_ | _) | _ <;>
    simp only [indexTable, index, indexMethods, Built.has, Table.record] <;> split <;> simp_all

theorem declaration_indexTable :
    (link.indexTable table).value.declaration = link.declaration := by
  rcases table with (_ | _) | _ <;>
    simp only [indexTable, index, indexMethods] <;> split <;> rfl

theorem has_indexTable (other : Table) :
    (link.indexTable table).value.built.has other = (link.built.has other || other = table) := by
  rcases table with (_ | _) | _ <;> rcases other with (_ | _) | _ <;>
    simp only [indexTable, index, indexMethods, Built.has] <;> split <;> simp_all

end Link

/-! ## Tables of a chain -/

/-- A table of the type that is so many steps up a chain. -/
structure TableAt where
  table : Table
  level : Nat
  deriving DecidableEq, Repr

/-- The event of building a table of a chain. -/
def TableAt.record (declarations : List Declaration) (place : TableAt) : Event :=
  place.table.record (declarations.getD place.level .root).name

/-- Whether a table of a chain has been built. -/
def builtIn (links : List Link) (place : TableAt) : Bool :=
  links[place.level]?.any fun link => link.built.has place.table

/-- How many types of a chain a search consults: all up to the first one that has an answer, or the
first one alone. -/
def reach (inherited : Bool) (answers : Declaration → Bool) : List Declaration → Nat
  | [] => 0
  | declaration :: rest =>
    if answers declaration || !inherited then 1 else reach inherited answers rest + 1

/-- A type is consulted where it is the first of the chain, or where ancestors are searched and no
type before it has an answer. -/
theorem lt_reach_iff {inherited : Bool} {answers : Declaration → Bool}
    {declarations : List Declaration} {level : Nat} :
    level < reach inherited answers declarations ↔
      level < declarations.length ∧ (level ≠ 0 → inherited = true) ∧
        ∀ declaration ∈ declarations.take level, answers declaration = false := by
  induction declarations generalizing level with
  | nil => simp [reach]
  | cons declaration rest ih =>
    rw [reach]
    cases level with
    | zero => split <;> simp
    | succ level =>
      rw [List.take_succ_cons, List.forall_mem_cons]
      cases inherited with
      | false => simp
      | true => cases answer : answers declaration <;> simp [ih]

/-- The tables of one sort that are within reach. -/
def withinReach (table : Table) (count : Nat) : List TableAt :=
  (List.range count).map (TableAt.mk table)

@[simp]
theorem mem_withinReach {table : Table} {count : Nat} {place : TableAt} :
    place ∈ withinReach table count ↔ place.table = table ∧ place.level < count := by
  obtain ⟨other, level⟩ := place
  simp [withinReach, and_comm, eq_comm]

theorem nodup_withinReach (table : Table) (count : Nat) : (withinReach table count).Nodup := by
  apply List.Nodup.map _ List.nodup_range
  intro level level' same
  exact congrArg TableAt.level same

theorem withinReach_succ (table : Table) (count : Nat) :
    withinReach table (count + 1) =
      ⟨table, 0⟩ :: (withinReach table count).map fun place =>
        { place with level := place.level + 1 } := by
  simp [withinReach, List.range_succ_eq_map]

/-- The place that is seen from so many steps farther down. -/
def TableAt.raise (steps : Nat) (place : TableAt) : TableAt :=
  { place with level := steps + place.level }

theorem mem_map_raise {steps : Nat} {place : TableAt} {places : List TableAt} :
    place ∈ places.map (.raise steps) ↔
      steps ≤ place.level ∧ { place with level := place.level - steps } ∈ places := by
  rw [List.mem_map]
  constructor
  · rintro ⟨higher, member, rfl⟩
    have level : steps + higher.level - steps = higher.level := by omega
    simpa [TableAt.raise, level] using member
  · rintro ⟨le, member⟩
    have level : steps + (place.level - steps) = place.level := by omega
    exact ⟨_, member, by simp [TableAt.raise, level]⟩

/-- The events of building the tables at some places of a chain, as far as they are not there. -/
def buildEvents (links : List Link) (places : List TableAt) : List Event :=
  (places.filter fun place => !builtIn links place).map
    (TableAt.record (links.map Link.declaration))

/-- The tables of the upper part of a chain are those of the chain farther up. -/
theorem buildEvents_drop (links : List Link) (steps : Nat) (places : List TableAt) :
    buildEvents (links.drop steps) places = buildEvents links (places.map (.raise steps)) := by
  have built (place : TableAt) :
      builtIn (links.drop steps) place = builtIn links (place.raise steps) := by
    simp only [builtIn, TableAt.raise, List.getElem?_drop]
  have record (place : TableAt) :
      TableAt.record ((links.map Link.declaration).drop steps) place =
        TableAt.record (links.map Link.declaration) (place.raise steps) := by
    simp only [TableAt.record, TableAt.raise, List.getD_eq_getElem?_getD, List.getElem?_drop]
  simp only [buildEvents, List.map_drop, List.filter_map, List.map_map]
  simp only [built, Function.comp_def]
  exact List.map_congr_left fun place _ => record place

/-- Tables are there in one part of a chain or in the other. -/
theorem builtIn_append (below above : List Link) (place : TableAt) :
    builtIn (below ++ above) place =
      if place.level < below.length then builtIn below place
      else builtIn above { place with level := place.level - below.length } := by
  simp only [builtIn, List.getElem?_append]
  split <;> rfl

section Consult

variable (table : Table) (inherited : Bool) (answers : Declaration → Bool) (links : List Link)

/-- How many types of a chain a search consults. -/
def reachIn : Nat :=
  reach inherited answers (links.map Link.declaration)

/-- Consulting tables up a chain builds those that are within reach and not there. -/
theorem events_consult :
    (consult inherited answers (Link.indexTable table) links).events =
      buildEvents links (withinReach table (reachIn inherited answers links)) := by
  induction links with
  | nil => rfl
  | cons link rest ih =>
    have first : (link.indexTable table).events = buildEvents (link :: rest) [⟨table, 0⟩] := by
      rw [Link.events_indexTable]
      cases has : link.built.has table <;>
        simp [buildEvents, builtIn, has, TableAt.record]
    have later (places : List TableAt) :
        buildEvents (link :: rest) (places.map fun place =>
          { place with level := place.level + 1 }) = buildEvents rest places := by
      simp [buildEvents, List.filter_map, Function.comp_def, builtIn, TableAt.record]
    have split (place : TableAt) (places : List TableAt) :
        buildEvents (link :: rest) (place :: places) =
          buildEvents (link :: rest) [place] ++ buildEvents (link :: rest) places := by
      simp only [buildEvents, ← List.map_append, ← List.filter_append, List.singleton_append]
    rw [consult, Noted.events_bind, reachIn, List.map_cons, reach]
    cases answers link.declaration || !inherited with
    | true =>
      simp only [if_true, Noted.events_pure, List.append_nil, first]
      rfl
    | false =>
      simp only [Bool.false_eq_true, if_false, Noted.events_bind, Noted.events_pure,
        List.append_nil, ih, first, reachIn]
      rw [withinReach_succ, split _ (List.map _ _), later]

theorem builtIn_consult (place : TableAt) :
    builtIn (consult inherited answers (Link.indexTable table) links).value place =
      (builtIn links place ||
        decide (place ∈ withinReach table (reachIn inherited answers links))) := by
  obtain ⟨other, level⟩ := place
  induction links generalizing level with
  | nil => simp [consult, builtIn, reachIn, reach]
  | cons link rest ih =>
    rw [consult, Noted.value_bind, reachIn, List.map_cons, reach]
    cases answers link.declaration || !inherited with
    | true =>
      cases level with
      | zero => simp [builtIn, Link.has_indexTable]
      | succ level => simp [builtIn]
    | false =>
      cases level with
      | zero => simp [builtIn, Link.has_indexTable]
      | succ level => simpa [builtIn, reachIn] using ih level

end Consult

end Stencil
