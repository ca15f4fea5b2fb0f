import Mathlib.Data.List.Forall2
import Stencil.Host.Formula
import Stencil.Proofs.Data.Entries
import Stencil.Scope.Basic

/-!
# Identity and equality of values

Identity tells values apart as the logic does, so it is an equivalence, and whatever a
template can find out about a value is the same for identical values
(`Value.Indistinguishable`).

Equality compares numbers as numbers.  What is not a number equals nothing, so equality
is no equivalence on all values.  It is symmetric and transitive, and a value equals
itself exactly if no NaN is inside of it (`Value.equal_self_iff`).  What an instance holds
is not inside of the objects that stand for it.

Two lists are equal if they have equal items or none at every position, and two maps if
they have equal values or none under every name.  For maps this needs that no name stands
twice (`Value.equal_map_iff`), which is why the laws speak of values in which all maps are
so (`Value.isKeyed`).  They follow by one induction on the nesting, and inside of it on
nothing but options.
-/

set_option autoImplicit false

namespace Stencil

/-! ## Options related place by place -/

section Related

variable {α β γ : Type} {left : Option α} {middle : Option β} {right : Option γ}

theorem rel_swap {Related : α → β → Prop} {Swapped : β → α → Prop}
    (related : Option.Rel Related left middle)
    (swap : ∀ first ∈ left, ∀ second ∈ middle, Related first second → Swapped second first) :
    Option.Rel Swapped middle left := by
  cases related with
  | none => exact .none
  | some here => exact .some (swap _ rfl _ rfl here)

theorem rel_comp {First : α → β → Prop} {Second : β → γ → Prop} {Both : α → γ → Prop}
    (first : Option.Rel First left middle) (second : Option.Rel Second middle right)
    (comp : ∀ start ∈ left, ∀ between ∈ middle, ∀ stop ∈ right, First start between →
      Second between stop → Both start stop) : Option.Rel Both left right := by
  cases first with
  | none =>
    cases second with
    | none => exact .none
  | some here =>
    cases second with
    | some there => exact .some (comp _ rfl _ rfl _ rfl here there)

theorem rel_self_iff {Related : α → α → Prop} :
    Option.Rel Related left left ↔ ∀ value ∈ left, Related value value := by
  cases left with
  | none => exact ⟨fun _ value member => absurd member (by simp), fun _ => .none⟩
  | some value =>
    constructor
    · rintro (related | _) other same
      obtain rfl := Option.some.inj same
      exact related
    · exact fun related => .some (related value rfl)

end Related

/-! ## Numbers -/

namespace Numeric.Binary

variable {format : BinaryFormat}

theorem equal_symm {left right : Binary format} (equal : left.equal right = true) :
    right.equal left = true := by
  cases left <;> cases right <;> simp_all [Binary.equal, compare?]

theorem equal_trans {left middle right : Binary format} (first : left.equal middle = true)
    (second : middle.equal right = true) : left.equal right = true := by
  cases left <;> cases middle <;> cases right <;> simp_all [equal, compare?]

end Numeric.Binary

namespace Value

/-! ## What is inside of a value -/

mutual
/-- Whether a property holds of a value and of every value inside of it. -/
def everywhere (property : Value → Bool) : Value → Bool
  | .list items => property (.list items) && everywhereInItems property items
  | .map entries => property (.map entries) && everywhereInEntries property entries
  | value => property value

/-- Whether a property holds of every value inside of some items. -/
def everywhereInItems (property : Value → Bool) : List Value → Bool
  | [] => true
  | item :: items => everywhere property item && everywhereInItems property items

/-- Whether a property holds of every value inside of some entries. -/
def everywhereInEntries (property : Value → Bool) : List (String × Value) → Bool
  | [] => true
  | (_, value) :: rest => everywhere property value && everywhereInEntries property rest
end

/-- Whether a value is the number that is not a number. -/
def isNaN : Value → Bool
  | .float number => number.isNaN
  | _ => false

/-- Whether NaN is inside of a value. -/
def hasNaN (value : Value) : Bool :=
  !value.everywhere fun part => !part.isNaN

/-- Whether a value, if it is a map, has no name twice. -/
def namesDiffer : Value → Bool
  | .map entries => decide (Entries.HasDistinctKeys entries)
  | _ => true

/-- Whether no map inside of a value has a name twice. -/
def isKeyed (value : Value) : Bool :=
  value.everywhere namesDiffer

/-- Values are made of those without parts by putting them into lists and maps. -/
@[elab_as_elim]
theorem nested_induction {motive : Value → Prop} (null : motive .null)
    (bool : ∀ truth, motive (.bool truth)) (int : ∀ number, motive (.int number))
    (float : ∀ number, motive (.float number)) (string : ∀ text, motive (.string text))
    (object : ∀ handle, motive (.object handle))
    (list : ∀ items, (∀ item ∈ items, motive item) → motive (.list items))
    (map : ∀ entries : List (String × Value), (∀ entry ∈ entries, motive entry.2) →
      motive (.map entries)) :
    ∀ value, motive value := by
  intro value
  cases value with
  | null => exact null
  | bool truth => exact bool truth
  | int number => exact int number
  | float number => exact float number
  | string text => exact string text
  | object handle => exact object handle
  | list items =>
    apply list items
    intro item member
    have := List.sizeOf_lt_of_mem member
    exact nested_induction null bool int float string object list map item
  | map entries =>
    apply map entries
    intro entry member
    have := List.sizeOf_lt_of_mem member
    exact nested_induction null bool int float string object list map entry.2
termination_by value => sizeOf value
decreasing_by
  · simp only [Value.list.sizeOf_spec]
    omega
  · obtain ⟨name, value⟩ := entry
    simp only [Prod.mk.sizeOf_spec, Value.map.sizeOf_spec] at this ⊢
    omega

section Everywhere

variable {property : Value → Bool}

theorem everywhere_list_iff {items : List Value} :
    (Value.list items).everywhere property = true ↔
      property (.list items) = true ∧ ∀ item ∈ items, item.everywhere property = true := by
  have each : everywhereInItems property items = true ↔
      ∀ item ∈ items, item.everywhere property = true := by
    induction items with
    | nil => simp [everywhereInItems]
    | cons item items ih => simp [everywhereInItems, ih]
  rw [everywhere, Bool.and_eq_true, each]

theorem everywhere_map_iff {entries : List (String × Value)} :
    (Value.map entries).everywhere property = true ↔
      property (.map entries) = true ∧
        ∀ entry ∈ entries, entry.2.everywhere property = true := by
  have each : everywhereInEntries property entries = true ↔
      ∀ entry ∈ entries, entry.2.everywhere property = true := by
    induction entries with
    | nil => simp [everywhereInEntries]
    | cons entry entries ih => simp [everywhereInEntries, ih]
  rw [everywhere, Bool.and_eq_true, each]

end Everywhere

theorem isKeyed_list_iff {items : List Value} :
    (Value.list items).isKeyed = true ↔ ∀ item ∈ items, item.isKeyed = true := by
  simp [isKeyed, everywhere_list_iff, namesDiffer]

theorem isKeyed_map_iff {entries : List (String × Value)} :
    (Value.map entries).isKeyed = true ↔
      Entries.HasDistinctKeys entries ∧ ∀ entry ∈ entries, entry.2.isKeyed = true := by
  simp [isKeyed, everywhere_map_iff, namesDiffer]

theorem hasNaN_list_iff {items : List Value} :
    (Value.list items).hasNaN = false ↔ ∀ item ∈ items, item.hasNaN = false := by
  simp [hasNaN, everywhere_list_iff, isNaN]

theorem hasNaN_map_iff {entries : List (String × Value)} :
    (Value.map entries).hasNaN = false ↔ ∀ entry ∈ entries, entry.2.hasNaN = false := by
  simp [hasNaN, everywhere_map_iff, isNaN]

/-! ## Equality place by place -/

/-- Two values are equal as data. -/
def EqualTo (left right : Value) : Prop :=
  left.equal right = true

/-- Two lists are equal item by item exactly if they have equal items or none at each position. -/
theorem areEqual_iff {lefts rights : List Value} :
    areEqual lefts rights = true ↔
      ∀ position : Nat, Option.Rel EqualTo lefts[position]? rights[position]? := by
  induction lefts generalizing rights with
  | nil =>
    cases rights with
    | nil => exact ⟨fun _ _ => .none, fun _ => rfl⟩
    | cons right rights =>
      refine ⟨fun equal => Bool.noConfusion equal, fun related => ?_⟩
      cases related 0
  | cons left lefts ih =>
    cases rights with
    | nil =>
      refine ⟨fun equal => Bool.noConfusion equal, fun related => ?_⟩
      cases related 0
    | cons right rights =>
      rw [areEqual, Bool.and_eq_true, ih]
      constructor
      · rintro ⟨first, rest⟩ (_ | position)
        · exact .some first
        · exact rest position
      · intro related
        refine ⟨?_, fun position => related (position + 1)⟩
        cases related 0 with
        | some first => exact first

theorem entriesAreIn_iff {left right : List (String × Value)} :
    entriesAreIn left right = true ↔ ∀ name value, (name, value) ∈ left →
      ∃ other, Entries.get? right name = some other ∧ EqualTo value other := by
  induction left with
  | nil => simp [entriesAreIn]
  | cons entry rest ih =>
    obtain ⟨key, first⟩ := entry
    rw [entriesAreIn, Bool.and_eq_true, ih]
    constructor
    · rintro ⟨here, later⟩ name value member
      rcases List.mem_cons.mp member with same | member
      · obtain ⟨rfl, rfl⟩ := Prod.mk.inj same
        cases found : Entries.get? right name with
        | none => simp [found] at here
        | some other =>
          rw [found] at here
          exact ⟨other, rfl, here⟩
      · exact later name value member
    · intro inside
      refine ⟨?_, fun name value member => inside name value (.tail _ member)⟩
      obtain ⟨other, found, equal⟩ := inside key first (.head _)
      rw [found]
      exact equal

theorem equal_list_iff {items : List Value} {other : Value} :
    EqualTo (.list items) other ↔ ∃ others, other = .list others ∧
      ∀ position : Nat, Option.Rel EqualTo items[position]? others[position]? := by
  cases other with
  | list others => simp only [EqualTo, equal, areEqual_iff, list.injEq, exists_eq_left']
  | _ => simp [EqualTo, equal]

/-- Two maps without double names are equal exactly if they have equal values or none under each
name, in whatever order. -/
theorem equal_map_iff {entries : List (String × Value)} {other : Value}
    (keyed : (Value.map entries).isKeyed = true) (otherKeyed : other.isKeyed = true) :
    EqualTo (.map entries) other ↔ ∃ others, other = .map others ∧
      ∀ name, Option.Rel EqualTo (Entries.get? entries name) (Entries.get? others name) := by
  cases other with
  | map others =>
    rw [isKeyed_map_iff] at keyed otherKeyed
    rw [EqualTo, equal, Bool.and_eq_true, beq_iff_eq, entriesAreIn_iff,
      Entries.rel_get?_iff keyed.1 otherKeyed.1]
    simp only [map.injEq, exists_eq_left']
  | _ => simp [EqualTo, equal]

/-! ## The laws of equality -/

theorem EqualTo.symm {left right : Value} (keyed : left.isKeyed = true)
    (otherKeyed : right.isKeyed = true) (equal : EqualTo left right) : EqualTo right left := by
  induction left using nested_induction generalizing right with
  | null => cases right <;> simp_all [EqualTo, Value.equal]
  | bool truth => cases right <;> simp_all [EqualTo, Value.equal]
  | int number => cases right <;> simp_all [EqualTo, Value.equal]
  | string text => cases right <;> simp_all [EqualTo, Value.equal]
  | object handle => cases right <;> simp_all [EqualTo, Value.equal]
  | float number =>
    cases right with
    | float other => exact Numeric.Binary.equal_symm equal
    | _ => simp [EqualTo, Value.equal] at equal
  | list items ih =>
    obtain ⟨others, rfl, related⟩ := equal_list_iff.mp equal
    rw [isKeyed_list_iff] at keyed otherKeyed
    refine equal_list_iff.mpr ⟨items, rfl, fun position => rel_swap (related position) ?_⟩
    intro first here second there
    have member := List.mem_of_getElem? here
    exact ih first member (keyed first member) (otherKeyed second (List.mem_of_getElem? there))
  | map entries ih =>
    obtain ⟨others, rfl, related⟩ := (equal_map_iff keyed otherKeyed).mp equal
    refine (equal_map_iff otherKeyed keyed).mpr ⟨entries, rfl, fun name => ?_⟩
    rw [isKeyed_map_iff] at keyed otherKeyed
    refine rel_swap (related name) ?_
    intro first here second there
    have member := Entries.mem_of_get?_eq_some here
    exact ih _ member (keyed.2 _ member) (otherKeyed.2 _ (Entries.mem_of_get?_eq_some there))

/-- Names that stand twice break the symmetry. -/
example :
    let doubled : Value := .map [("a", .null), ("a", .null)]
    let other : Value := .map [("a", .null), ("b", .null)]
    doubled.equal other = true ∧ other.equal doubled = false := by decide

theorem EqualTo.trans {left middle right : Value} (leftKeyed : left.isKeyed = true)
    (middleKeyed : middle.isKeyed = true) (rightKeyed : right.isKeyed = true)
    (first : EqualTo left middle) (second : EqualTo middle right) : EqualTo left right := by
  induction left using nested_induction generalizing middle right with
  | null => cases middle <;> cases right <;> simp_all [EqualTo, equal]
  | bool truth => cases middle <;> cases right <;> simp_all [EqualTo, equal]
  | int number => cases middle <;> cases right <;> simp_all [EqualTo, equal]
  | string text => cases middle <;> cases right <;> simp_all [EqualTo, equal]
  | object handle => cases middle <;> cases right <;> simp_all [EqualTo, equal]
  | float number =>
    cases middle with
    | float between =>
      cases right with
      | float other => exact Numeric.Binary.equal_trans first second
      | _ => simp [EqualTo, equal] at second
    | _ => simp [EqualTo, equal] at first
  | list items ih =>
    obtain ⟨betweens, rfl, related⟩ := equal_list_iff.mp first
    obtain ⟨others, rfl, related'⟩ := equal_list_iff.mp second
    rw [isKeyed_list_iff] at leftKeyed middleKeyed rightKeyed
    refine equal_list_iff.mpr ⟨others, rfl, fun position =>
      rel_comp (related position) (related' position) ?_⟩
    intro start here between on stop there
    have member := List.mem_of_getElem? here
    exact ih start member (leftKeyed start member) (middleKeyed between (List.mem_of_getElem? on))
      (rightKeyed stop (List.mem_of_getElem? there))
  | map entries ih =>
    obtain ⟨betweens, rfl, related⟩ := (equal_map_iff leftKeyed middleKeyed).mp first
    obtain ⟨others, rfl, related'⟩ := (equal_map_iff middleKeyed rightKeyed).mp second
    refine (equal_map_iff leftKeyed rightKeyed).mpr ⟨others, rfl, fun name => ?_⟩
    rw [isKeyed_map_iff] at leftKeyed middleKeyed rightKeyed
    refine rel_comp (related name) (related' name) ?_
    intro start here between on stop there
    have member := Entries.mem_of_get?_eq_some here
    exact ih _ member (leftKeyed.2 _ member)
      (middleKeyed.2 _ (Entries.mem_of_get?_eq_some on))
      (rightKeyed.2 _ (Entries.mem_of_get?_eq_some there))

/-- A value equals itself exactly if NaN is not inside of it. -/
theorem equal_self_iff {value : Value} (keyed : value.isKeyed = true) :
    EqualTo value value ↔ value.hasNaN = false := by
  induction value using nested_induction with
  | null => simp [EqualTo, equal, hasNaN, everywhere, isNaN]
  | bool truth => simp [EqualTo, equal, hasNaN, everywhere, isNaN]
  | int number => simp [EqualTo, equal, hasNaN, everywhere, isNaN]
  | string text => simp [EqualTo, equal, hasNaN, everywhere, isNaN]
  | object handle => simp [EqualTo, equal, hasNaN, everywhere, isNaN]
  | float number => simp [EqualTo, equal, hasNaN, everywhere, isNaN, Numeric.Binary.equal_self]
  | list items ih =>
    rw [equal_list_iff, hasNaN_list_iff]
    rw [isKeyed_list_iff] at keyed
    simp only [list.injEq, exists_eq_left', rel_self_iff]
    constructor
    · intro related item member
      obtain ⟨position, here⟩ := List.getElem?_of_mem member
      exact (ih item member (keyed item member)).mp (related position item here)
    · intro free position item here
      have member := List.mem_of_getElem? here
      exact (ih item member (keyed item member)).mpr (free item member)
  | map entries ih =>
    rw [equal_map_iff keyed keyed, hasNaN_map_iff]
    rw [isKeyed_map_iff] at keyed
    simp only [map.injEq, exists_eq_left', rel_self_iff]
    constructor
    · rintro related ⟨name, value⟩ member
      have here := (Entries.get?_eq_some_iff keyed.1).mpr member
      exact (ih _ member (keyed.2 _ member)).mp (related name value here)
    · intro free name value here
      have member := Entries.mem_of_get?_eq_some here
      exact (ih _ member (keyed.2 _ member)).mpr (free _ member)

/-! ## Identity -/

/-- Two values are identical. -/
def IdenticalTo (left right : Value) : Prop :=
  left.identical right = true

theorem identicalTo_equivalence : Equivalence IdenticalTo where
  refl := identical_self
  symm := fun same => identical_iff.mpr (identical_iff.mp same).symm
  trans := fun first second =>
    identical_iff.mpr ((identical_iff.mp first).trans (identical_iff.mp second))

/-- Nothing that a template can find out tells two values apart: neither their kinds nor their
texts, nor what a path leads to from them, nor the elements that a loop visits. -/
structure Indistinguishable (host : Host) (left right : Value) : Prop where
  kind : host.kind left = host.kind right
  display : host.display left = host.display right
  resolve : ∀ path : String, Option.Rel IdenticalTo
    ((Scope.new host left).resolve host path).value.1
    ((Scope.new host right).resolve host path).value.1
  elements : Option.Rel (List.Forall₂ IdenticalTo) (host.elements? left) (host.elements? right)

theorem IdenticalTo.indistinguishable (host : Host) {left right : Value}
    (identical : IdenticalTo left right) : Indistinguishable host left right := by
  obtain rfl := identical_iff.mp identical
  refine ⟨rfl, rfl, fun path => ?_, ?_⟩
  · exact rel_self_iff.mpr fun value _ => identical_self value
  · exact rel_self_iff.mpr fun elements _ =>
      List.forall₂_same.mpr fun element _ => identical_self element

/-- **Identity and equality are lawful.**  Identity is an equivalence, and identical values cannot
be told apart.  On values whose maps have no name twice, equality is symmetric and transitive, a
value equals itself exactly if NaN is not inside of it, and identical values are equal unless NaN is
inside of them. -/
theorem identity_and_equality (host : Host) {first second third : Value}
    (firstKeyed : first.isKeyed = true) (secondKeyed : second.isKeyed = true)
    (thirdKeyed : third.isKeyed = true) :
    Equivalence IdenticalTo ∧
    (IdenticalTo first second → Indistinguishable host first second) ∧
    (EqualTo first second ↔ EqualTo second first) ∧
    (EqualTo first second → EqualTo second third → EqualTo first third) ∧
    (EqualTo first first ↔ first.hasNaN = false) ∧
    (IdenticalTo first second → first.hasNaN = false → EqualTo first second) := by
  refine ⟨identicalTo_equivalence, IdenticalTo.indistinguishable host, ?_, ?_,
    equal_self_iff firstKeyed, ?_⟩
  · exact ⟨EqualTo.symm firstKeyed secondKeyed, EqualTo.symm secondKeyed firstKeyed⟩
  · exact EqualTo.trans firstKeyed secondKeyed thirdKeyed
  · intro identical free
    obtain rfl := identical_iff.mp identical
    exact (equal_self_iff firstKeyed).mpr free

/-- Three maps that differ in the order of their entries and in the signs of their zeros are equal
and not identical.  A list with NaN in a map inside of it is identical to itself and not equal to
itself.  NaN in a slot of an instance is not inside of the object that stands for it. -/
theorem identity_and_equality_reordered :
    let name := Member.ofFormula "n" false (.slot "n") none
    let type := HostType.extend .root
      ⟨"Pair", 1, [name], [], [], some (Formula.slot "n").displayHook,
        some fun _ => iterateSlot "n", true⟩
    let host : Host := ⟨[⟨type, [[("n", .float .nan)]], .free⟩], []⟩
    let zero (negative : Bool) : Value := .float (.zero negative)
    let inner : Value := .map [("k", .int 1), ("object", .object ⟨0⟩)]
    let innerSwapped : Value := .map [("object", .object ⟨0⟩), ("k", .int 1)]
    let first : Value := .map [("x", zero false), ("items", .list [inner, .null])]
    let second : Value := .map [("items", .list [innerSwapped, .null]), ("x", zero true)]
    let third : Value := .map [("items", .list [inner, .null]), ("x", zero true)]
    let odd : Value := .list [.map [("n", .float .nan)], .object ⟨0⟩]
    (first.isKeyed = true ∧ second.isKeyed = true ∧ third.isKeyed = true ∧ odd.isKeyed = true) ∧
    EqualTo first second ∧ ¬ IdenticalTo first second ∧ EqualTo second first ∧
    EqualTo second third ∧ EqualTo first third ∧ EqualTo first first ∧
    IdenticalTo odd odd ∧ Indistinguishable host odd odd ∧ ¬ EqualTo odd odd := by
  intro name type host zero inner innerSwapped first second third odd
  have keyed : first.isKeyed = true ∧ second.isKeyed = true ∧ third.isKeyed = true ∧
      odd.isKeyed = true := by decide
  have start : first.equal second = true := by decide
  have rest : second.equal third = true := by decide
  have free : first.hasNaN = false := by decide
  have inside : odd.hasNaN = true := by decide
  obtain ⟨-, -, swap, chain, self, -⟩ :=
    identity_and_equality host keyed.1 keyed.2.1 keyed.2.2.1
  obtain ⟨identity, alike, -, -, oddSelf, -⟩ :=
    identity_and_equality host keyed.2.2.2 keyed.2.2.2 keyed.2.2.2
  refine ⟨keyed, start, ?_, swap.mp start, rest, chain start rest, self.mpr free,
    identity.refl odd, alike (identity.refl odd), fun equal => ?_⟩
  · exact (by decide : ¬ first.identical second = true)
  · exact absurd (oddSelf.mp equal) (by rw [inside]; decide)

end Value

end Stencil
