import Stencil.Context
import Stencil.Proofs.Convert.Whole
import Stencil.Proofs.Data.Entries
import Stencil.Proofs.Numeric.Binary
import Stencil.Session

/-!
# Two ways from data to a value

Typed data becomes a value directly, by the conversion of its type, or is serialized as
JSON data first and becomes the value of that.  The second way can lose something that the
first one keeps: a number that is not finite has no JSON form and becomes null, and an
integer of more than 64 bits is refused.  Data without either is *plain* here
(`Datum.IsPlain`), and plain data becomes the same value both ways
(`Datum.ofSerial_toSerial`).

The induction is on what the data is made of.  The value of a serialized sequence is made
of the values of its items (`Value.ofSerial_sequence`).  A table is sorted before its
members are converted on one way and afterwards on the other, and that is the same since
names decide its order (`Value.ofSerial_table`).
-/

set_option autoImplicit false

namespace Stencil

open Numeric (Binary)

/-! ## Values of serialized data -/

namespace Value

theorem ofSerial_eq_ok_iff {data : Serial} {value : Value} :
    ofSerial data = .ok value ↔ ∃ json, data.toJson = .ok json ∧ ofJson json = value := by
  rw [ofSerial]
  cases data.toJson with
  | error cause => simp [Except.map]
  | ok json => simp [Except.map]

/-- The value of a serialized sequence is made of the values of its items. -/
theorem ofSerial_sequence {items : List Serial} {values : List Value}
    (each : List.Forall₂ (fun item value => ofSerial item = .ok value) items values) :
    ofSerial (.sequence items) = .ok (.list values) := by
  have written : ∃ forms, Serial.itemsToJson items = .ok forms ∧ ofJsonItems forms = values := by
    induction each with
    | nil => exact ⟨[], rfl, rfl⟩
    | cons first _ ih =>
      obtain ⟨form, writes, rfl⟩ := ofSerial_eq_ok_iff.mp first
      obtain ⟨forms, written, rfl⟩ := ih
      refine ⟨form :: forms, ?_, rfl⟩
      rw [Serial.itemsToJson, writes, written]
      rfl
  obtain ⟨forms, written, rfl⟩ := written
  refine ofSerial_eq_ok_iff.mpr ⟨.array forms, ?_, rfl⟩
  rw [Serial.toJson, written]
  rfl

theorem ofJsonMembers_eq (members : List (String × Json)) :
    ofJsonMembers members = Entries.mapValues ofJson members := by
  induction members with
  | nil => rfl
  | cons member rest ih => rw [ofJsonMembers, ih, Entries.mapValues, Entries.mapValues, List.map_cons]

/-- The value of a serialized table has the values of its members, sorted by their names, the last
one of each name. -/
theorem ofSerial_table {entries : List (Serial × Serial)} {members : List (String × Value)}
    (each : List.Forall₂ (fun entry member =>
      entry.1.key = .ok member.1 ∧ ofSerial entry.2 = .ok member.2) entries members) :
    ofSerial (.table entries) = .ok (.map (Entries.ofPairs members).sorted) := by
  have written : ∃ forms, Serial.entriesToJson entries = .ok forms ∧
      Entries.mapValues ofJson forms = members := by
    induction each with
    | nil => exact ⟨[], rfl, rfl⟩
    | @cons entry member entries members first _ ih =>
      obtain ⟨names, converts⟩ := first
      obtain ⟨form, writes, value⟩ := ofSerial_eq_ok_iff.mp converts
      obtain ⟨forms, written, rfl⟩ := ih
      refine ⟨(member.1, form) :: forms, ?_, ?_⟩
      · rw [Serial.entriesToJson, names, writes, written]
        rfl
      · rw [Entries.mapValues, List.map_cons, value]
        rfl
  obtain ⟨forms, written, rfl⟩ := written
  refine ofSerial_eq_ok_iff.mpr ⟨.ofMembers forms, ?_, ?_⟩
  · rw [Serial.toJson, written]
    rfl
  · rw [Json.ofMembers, ofJson, ofJsonMembers_eq, Entries.mapValues_sorted, Entries.mapValues_ofPairs]

end Value

/-! ## Plain data -/

namespace Datum

/-- Data made of integers of a type, finite numbers, truth values and texts. -/
inductive IsPlain : Datum → Prop
  | bool (truth : Bool) : IsPlain (.bool truth)
  | int (whole : Whole) : IsPlain (.int whole.toInt)
  | single {number : Numeric.Binary32} (finite : number.isFinite = true) : IsPlain (.single number)
  | double {number : Numeric.Binary64} (finite : number.isFinite = true) : IsPlain (.double number)
  | string (text : String) : IsPlain (.string text)
  | absent : IsPlain .absent
  | present {content : Datum} (inside : IsPlain content) : IsPlain (.present content)
  | sequence {items : List Datum} (inside : ∀ item ∈ items, IsPlain item) : IsPlain (.sequence items)
  | table {entries : List (String × Datum)} (inside : ∀ entry ∈ entries, IsPlain entry.2) :
      IsPlain (.table entries)

theorem itemsToSerial_eq (items : List Datum) : itemsToSerial items = items.map toSerial := by
  induction items with
  | nil => rfl
  | cons item items ih => rw [itemsToSerial, ih, List.map_cons]

theorem entriesToSerial_eq (entries : List (String × Datum)) :
    entriesToSerial entries = entries.map fun entry => (.string entry.1, entry.2.toSerial) := by
  induction entries with
  | nil => rfl
  | cons entry entries ih => rw [entriesToSerial, ih, List.map_cons]

theorem ofDatumItems_eq (items : List Datum) : Value.ofDatumItems items = items.map .ofDatum := by
  induction items with
  | nil => rfl
  | cons item items ih => rw [Value.ofDatumItems, ih, List.map_cons]

theorem ofDatumEntries_eq (entries : List (String × Datum)) :
    Value.ofDatumEntries entries = Entries.mapValues .ofDatum entries := by
  induction entries with
  | nil => rfl
  | cons entry entries ih =>
    rw [Value.ofDatumEntries, ih, Entries.mapValues, Entries.mapValues, List.map_cons]

/-- Plain data becomes the same value both ways. -/
theorem ofSerial_toSerial {datum : Datum} (plain : datum.IsPlain) :
    Value.ofSerial datum.toSerial = .ok (.ofDatum datum) := by
  induction plain with
  | bool truth => rfl
  | int whole =>
    rw [toSerial, Value.ofSerial, Serial.toJson, if_pos whole.isWritable_toInt]
    rfl
  | @single number finite =>
    rw [toSerial, Value.ofSerial, Serial.toJson, Json.ofFloat,
      if_pos (Binary.isFinite_widen finite)]
    rfl
  | @double number finite =>
    rw [toSerial, Value.ofSerial, Serial.toJson, Json.ofFloat, if_pos finite]
    rfl
  | string text => rfl
  | absent => rfl
  | present _ ih => exact ih
  | @sequence items _ ih =>
    rw [toSerial, Value.ofDatum, itemsToSerial_eq, ofDatumItems_eq]
    refine Value.ofSerial_sequence ?_
    rw [List.forall₂_map_left_iff, List.forall₂_map_right_iff, List.forall₂_same]
    exact ih
  | @table entries _ ih =>
    rw [toSerial, Value.ofDatum, entriesToSerial_eq, ofDatumEntries_eq]
    refine Value.ofSerial_table ?_
    rw [Entries.mapValues, List.forall₂_map_left_iff, List.forall₂_map_right_iff, List.forall₂_same]
    exact fun entry member => ⟨rfl, ih entry member⟩

/-- What is not finite becomes null on the way through JSON, and stays a number on the other. -/
example : Value.ofSerial (Datum.double (.infinite true)).toSerial = .ok .null ∧
    Value.ofDatum (.double (.infinite true)) ≠ .null := by decide +kernel

/-- A table whose names are in strict order already has its members in that order. -/
theorem ofDatum_table_of_ordered {entries : List (String × Datum)}
    (ordered : entries.Pairwise fun left right => left.1 < right.1) :
    Value.ofDatum (.table entries) = .map (Entries.mapValues .ofDatum entries) := by
  have members : (Entries.mapValues Value.ofDatum entries).Pairwise fun left right =>
      left.1 < right.1 := List.pairwise_map.mpr ordered
  rw [Value.ofDatum, ofDatumEntries_eq, Entries.sorted_ofPairs_of_ordered members]

end Datum

theorem Context.tryInsert_of_ok (context : Context) (key : String) {data : Serial} {value : Value}
    (converts : Value.ofSerial data = .ok value) :
    context.tryInsert key data = .ok (context.insert key value) := by
  rw [tryInsert, converts]

/-- **The two ways of building a value agree.**  Plain data nested to any depth can be serialized, and
its serialized form becomes the value that the data becomes directly.  So inserting it either way
makes the same context, and every text is rendered alike against the two.

An integer becomes the same value by the choice of its type and by that of the number it is written
as: an integer of 64 bits with a sign as long as it is one, and the same floating-point number above.
A table has its members in the order of their names. -/
theorem Context.tryInsert_toSerial {datum : Datum} (plain : datum.IsPlain) (context : Context)
    (key : String) :
    Value.ofSerial datum.toSerial = .ok (.ofDatum datum) ∧
      (∃ after, context.tryInsert key datum.toSerial = .ok after ∧
        after = context.insert key (.ofDatum datum) ∧
        ∀ (host : Host) (strict : Bool) (text : String),
          Session.render host ⟨.new host after.toValue, strict⟩ text =
            Session.render host ⟨.new host (context.insert key (.ofDatum datum)).toValue, strict⟩
              text) ∧
      (∀ whole : Whole,
        Value.ofDatum (.int whole.toInt) = whole.value ∧
          (Datum.int whole.toInt).toSerial.toJson = .ok whole.number.json ∧
          Value.ofJson whole.number.json = whole.number.value ∧
          whole.number.value = whole.value ∧
          (whole.toInt < 2 ^ 63 → whole.value = .int (.ofInt whole.toInt)) ∧
          (2 ^ 63 ≤ whole.toInt → whole.value = .float (.ofInt whole.toInt))) ∧
      ∀ entries : List (String × Datum), (entries.Pairwise fun left right => left.1 < right.1) →
        Value.ofDatum (.table entries) = .map (Entries.mapValues .ofDatum entries) := by
  have same := Datum.ofSerial_toSerial plain
  refine ⟨same, ⟨_, context.tryInsert_of_ok key same, rfl, fun _ _ _ => rfl⟩, fun whole => ?_,
    fun entries ordered => Datum.ofDatum_table_of_ordered ordered⟩
  refine ⟨whole.value_eq.symm, ?_, whole.number.value_eq.symm, whole.value_number, fun small => ?_,
    fun large => ?_⟩
  · rw [whole.json_number, Datum.toSerial, Serial.toJson, if_pos whole.isWritable_toInt]
  · rw [whole.value_eq, Value.ofDatum, Value.ofInt_of_isInt64 ⟨whole.bounds.1, small⟩]
  · rw [whole.value_eq, Value.ofDatum, Value.ofInt_of_large large]

/-- A table whose names are neither in order nor distinct, with a number of 32 bits, with data that is
absent, and with a natural number just too large for 64 bits with a sign. -/
theorem Context.tryInsert_toSerial_unordered :
    let large : Whole := ⟨false, 64, 9223372036854775808, by decide⟩
    let items : Datum :=
      .sequence [.present .absent, .single (.number true 1069547520), .int large.toInt]
    let datum : Datum := .table [("z", .bool true), ("a", items), ("z", .present (.string "x"))]
    datum.IsPlain ∧
      (∃ after, Context.empty.tryInsert "k" datum.toSerial = .ok after ∧
        after.toValue = .map [("k", .map [
          ("a", .list [.null, .float (.number true 4609434218613702656),
            .float (.number false 4890909195324358656)]),
          ("z", .string "x")])]) := by
  intro large items datum
  have plainItems : items.IsPlain := by
    refine .sequence fun item member => ?_
    simp only [List.mem_cons, List.not_mem_nil, or_false] at member
    rcases member with rfl | rfl | rfl
    · exact .present .absent
    · exact .single (by decide)
    · exact .int large
  have plain : datum.IsPlain := by
    refine .table fun entry member => ?_
    simp only [List.mem_cons, List.not_mem_nil, or_false] at member
    rcases member with rfl | rfl | rfl
    · exact .bool true
    · exact plainItems
    · exact .present (.string "x")
  obtain ⟨-, ⟨after, inserts, rfl, -⟩, -⟩ := tryInsert_toSerial plain .empty "k"
  refine ⟨plain, _, inserts, ?_⟩
  have listed : Value.ofDatum items = .list [.null, .float (.number true 4609434218613702656),
      .float (.number false 4890909195324358656)] := by
    decide +kernel
  have sorted (first second third : Value) :
      Entries.sorted (Entries.ofPairs [("z", first), ("a", second), ("z", third)]) =
        [("a", second), ("z", third)] := by
    simp [Entries.sorted, Entries.ofPairs, Entries.insert, List.mergeSort]
  simp only [toValue, insert, empty, Entries.insert, datum, Value.ofDatum, Value.ofDatumEntries, listed,
    sorted]

end Stencil
