import Stencil.Proofs.Data.Entries
import Stencil.Proofs.Scope.Coherence

/-!
# Paths through plain data

Plain data has no objects in it.  Nothing that the host does changes what its members
are, so that what a scope of plain data keeps never falls behind
(`Scope.Coherent.of_isPlain`).

In plain data a path is walked key by key through nested maps (`Value.walk?`).  A local
name is a key of the map that the walk starts from: that map is the value with the
bindings inserted over it, the oldest first (`Entries.overlaid`), and from the second
name on the bindings play no part (`Scope.find_ofNames`).
-/

set_option autoImplicit false

namespace Stencil

/-! ## Plain values -/

namespace Value

/-- A value without objects in it. -/
inductive IsPlain : Value → Prop
  | null : IsPlain .null
  | bool (truth : Bool) : IsPlain (.bool truth)
  | int (number : Int64) : IsPlain (.int number)
  | float (number : Numeric.Binary64) : IsPlain (.float number)
  | string (text : String) : IsPlain (.string text)
  | list {items : List Value} (plain : ∀ item ∈ items, IsPlain item) : IsPlain (.list items)
  | map {entries : List (String × Value)} (plain : ∀ entry ∈ entries, IsPlain entry.2) :
      IsPlain (.map entries)

/-- The value under a key of a map. -/
def atKey? : Value → String → Option Value
  | .map entries, key => Entries.get? entries key
  | _, _ => none

/-- The value that some keys lead to, one after the other. -/
def walk? : Value → List String → Option Value
  | value, [] => some value
  | value, key :: keys => (value.atKey? key).bind fun below => walk? below keys

theorem walk?_nil (value : Value) : walk? value [] = some value := rfl

theorem walk?_cons (value : Value) (key : String) (keys : List String) :
    walk? value (key :: keys) = (value.atKey? key).bind fun below => walk? below keys := rfl

/-- No key leads on from nothing. -/
theorem walk?_getD_null (found? : Option Value) (key : String) (keys : List String) :
    walk? (found?.getD .null) (key :: keys) =
      found?.bind fun below => walk? below (key :: keys) := by
  cases found? <;> rfl

namespace IsPlain

variable {host : Host} {value : Value}

theorem asObject?_eq_none (plain : value.IsPlain) : value.asObject? = none := by
  cases plain <;> rfl

/-- The members of plain data are those under its keys, whatever the host. -/
theorem member?_eq (plain : value.IsPlain) (name : String) :
    value.member? host name = value.atKey? name := by
  cases plain <;> rfl

theorem of_atKey? (plain : value.IsPlain) {key : String} {below : Value}
    (found : value.atKey? key = some below) : below.IsPlain := by
  cases plain with
  | map plain => exact plain (key, below) (Entries.mem_of_get?_eq_some found)
  | _ => cases found

theorem getD_null {found? : Option Value} (plain : ∀ found ∈ found?, found.IsPlain) :
    (found?.getD .null).IsPlain := by
  cases found? with
  | none => exact .null
  | some found => exact plain found rfl

end IsPlain

end Value

namespace Scope

open Value (walk? walk?_nil walk?_cons walk?_getD_null)

/-! ## Paths -/

/-- A name is looked up in the bindings and else in the value, and the names behind it are walked
from what is found. -/
theorem find_ofNames (host : Host) {value : Value} (plain : value.IsPlain)
    {locals : List (String × Value)} (plainLocals : ∀ binding ∈ locals, binding.2.IsPlain)
    (first : List Char) {rest : List (List Char)}
    (others : ∀ segment ∈ rest, ¬ Path.isThis segment) :
    find host (Path.ofNames first rest) value locals =
      ((Entries.get? locals (.ofList first)).or (value.atKey? (.ofList first))).bind fun below =>
        walk? below (rest.map String.ofList) := by
  -- Behind the first name the bindings are gone, so that the induction is on the names with any
  -- bindings for the first.
  induction rest generalizing first value locals with
  | nil =>
    rw [Path.ofNames, find, plain.member?_eq, List.map_nil]
    cases (Entries.get? locals (.ofList first)).or (value.atKey? (.ofList first)) with
    | none => rfl
    | some below => exact (walk?_nil below).symm
  | cons second rest ih =>
    have start : base host value locals (.ofList first) =
        ((Entries.get? locals (.ofList first)).or (value.atKey? (.ofList first))).getD .null := by
      rw [base, plain.member?_eq]
      cases Entries.get? locals (.ofList first) <;> rfl
    have plainStart : (base host value locals (.ofList first)).IsPlain := by
      rw [start]
      apply Value.IsPlain.getD_null
      intro found isFound
      rcases Option.or_eq_some_iff.mp isFound with bound | ⟨-, below⟩
      · exact plainLocals _ (Entries.mem_of_get?_eq_some bound)
      · exact plain.of_atKey? below
    rw [Path.ofNames, Path.ofSegments_of_not_isThis (others second List.mem_cons_self), find,
      ih plainStart (List.forall_mem_nil _) second
        fun segment member => others segment (List.mem_cons_of_mem second member),
      start, List.map_cons]
    exact (walk?_cons _ _ _).symm.trans (walk?_getD_null _ _ _)

/-- A path of names in a plain map with bindings is a walk from the map with the bindings over it. -/
theorem find_ofNames_map (host : Host) {entries : Entries Value}
    (plain : (Value.map entries).IsPlain) {locals : List (String × Value)}
    (plainLocals : ∀ binding ∈ locals, binding.2.IsPlain) (first : List Char)
    {rest : List (List Char)} (others : ∀ segment ∈ rest, ¬ Path.isThis segment) :
    find host (Path.ofNames first rest) (.map entries) locals =
      walk? (.map (entries.overlaid locals)) ((first :: rest).map String.ofList) := by
  rw [find_ofNames host plain plainLocals first others, List.map_cons, walk?_cons, Value.atKey?,
    Value.atKey?, Entries.get?_overlaid]

/-- Names joined with points are taken apart again. -/
theorem split_intercalate_toList {first : String} {rest : List String}
    (free : ∀ segment ∈ first :: rest, '.' ∉ segment.toList) :
    Text.split '.' (".".intercalate (first :: rest)).toList =
      (first.toList, rest.map String.toList) := by
  have point : ".".toList = ['.'] := rfl
  rw [String.toList_intercalate, point, List.map_cons]
  apply Text.split_intercalate
  rw [← List.map_cons, List.forall_mem_map]
  exact free

/-- In a coherent scope of a plain map with plain bindings a text that reads as some names walks
along them. -/
theorem Coherent.value_resolve_names {host : Host} {scope : Scope}
    (coherent : Coherent host scope) {entries : Entries Value}
    (value : scope.value = .map entries) (plain : (Value.map entries).IsPlain)
    (plainLocals : ∀ binding ∈ scope.locals, binding.2.IsPlain) {first : String}
    {rest : List String} (others : ∀ segment ∈ rest, ¬ Path.isThis segment.toList)
    {text : List Char}
    (reads : Path.ofText (Text.trim text) = Path.ofNames first.toList (rest.map String.toList)) :
    (scope.resolve host (.ofList text)).value.1 =
      walk? (.map (entries.overlaid scope.locals)) (first :: rest) := by
  have same : (first.toList :: rest.map String.toList).map String.ofList = first :: rest := by
    rw [← List.map_cons, List.map_map]
    simp
  rw [Scope.value_resolve, String.toList_ofList, reads, coherent.value_follow, value,
    find_ofNames_map host plain plainLocals, same]
  rw [List.forall_mem_map]
  exact others

/-! ## What is kept -/

/-- What is kept for plain data does not depend on the host. -/
theorem Coherent.of_isPlain {host : Host} {scope : Scope} (coherent : Coherent host scope)
    (plain : scope.value.IsPlain) (other : Host) : Coherent other scope := by
  induction coherent with
  | @intro scope way value unbound kept ih =>
    refine .intro ?_ ?_ unbound ?_
    · revert way
      cases scope.accessor? with
      | none => exact id
      | some accessor =>
        rintro ⟨handle, object, -⟩
        rw [plain.asObject?_eq_none] at object
        cases object
    · intro name child found
      rw [value found, plain.member?_eq, plain.member?_eq]
    · intro name child found
      apply ih found
      rw [value found, plain.member?_eq]
      exact Value.IsPlain.getD_null fun below isBelow => plain.of_atKey? isBelow

end Scope

end Stencil
