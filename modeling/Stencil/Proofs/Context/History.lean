import Mathlib.Data.List.Nodup
import Stencil.Context
import Stencil.Proofs.Data.Entries

/-!
# What a history of calls leaves in a context

A context is filled by calls: values are inserted under names, serialized data and
instances of the host are, and names are removed.  A history is the list of the calls
since the context was empty.

What is left of a history can be said without carrying the calls out.  A name *remains*
if it was inserted and has not been removed since.  It *enters* with the first insertion
after its last removal, which gives it its place, and its value is the one inserted
*last*: an insertion under a name that remains changes the value and not the place, and a
name that is removed and inserted again goes to the end.  Data that cannot be serialized
counts for nothing.

The entries of a context list exactly what is left of its history (`lists_after`), by one
lemma for each effect that a call can have, and no other entries do (`Lists.unique`).
-/

set_option autoImplicit false

namespace Stencil.Context

/-! ## Calls -/

/-- A call that can change a context. -/
inductive Call
  | insert (key : String) (value : Value)
  /-- Inserting serialized data, which can fail. -/
  | tryInsert (key : String) (data : Serial)
  /-- Inserting an instance of the host. -/
  | insertObject (key : String) (handle : Handle)
  | remove (key : String)

theorem tryInsert_of_error (context : Context) (key : String) {data : Serial} {cause : SerialError}
    (failed : Value.ofSerial data = .error cause) :
    context.tryInsert key data = .error (.serial cause) := by
  rw [tryInsert, failed]

/-- The context after a call. -/
def perform (context : Context) : Call → Context
  | .insert key value => context.insert key value
  | .tryInsert key data =>
    match context.tryInsert key data with
    | .ok filled => filled
    | .error _ => context
  | .insertObject key handle => context.insert key (.object handle)
  | .remove key => (context.remove key).2

/-- The context after a history of calls, the oldest first. -/
def after (history : List Call) : Context :=
  history.foldl perform empty

theorem after_concat (history : List Call) (call : Call) :
    after (history ++ [call]) = (after history).perform call := by
  rw [after, List.foldl_append]
  rfl

/-- What a call does to the names of a context. -/
inductive Effect
  | fills (key : String) (value : Value)
  | clears (key : String)
  | nothing

/-- The effect of a call.  Data that cannot be serialized changes nothing. -/
def Call.effect : Call → Effect
  | .insert key value => .fills key value
  | .tryInsert key data =>
    match Value.ofSerial data with
    | .ok value => .fills key value
    | .error _ => .nothing
  | .insertObject key handle => .fills key (.object handle)
  | .remove key => .clears key

/-- A call changes a context by its effect alone. -/
theorem perform_eq (context : Context) (call : Call) :
    context.perform call =
      match call.effect with
      | .fills key value => context.insert key value
      | .clears key => ⟨context.entries.erase key⟩
      | .nothing => context := by
  cases call with
  | tryInsert key data =>
    rw [perform, tryInsert, Call.effect]
    cases Value.ofSerial data <;> rfl
  | insert key value | insertObject key handle | remove key => rfl

/-! ## Histories -/

/-- At some call of a history something happened, and every call since has left it so.  What happened
is said of the calls before and of the call itself. -/
def Since (history : List Call) (happened : List Call → Call → Prop) (stays : Call → Prop) : Prop :=
  ∃ before call later, history = before ++ call :: later ∧ happened before call ∧
    ∀ next ∈ later, stays next

/-- The key was inserted, and it has not been removed since. -/
def Remains (history : List Call) (key : String) : Prop :=
  Since history (fun _ call => ∃ value, call.effect = .fills key value)
    fun next => next.effect ≠ .clears key

/-- The value was inserted under the key, and the key has been neither removed nor inserted since. -/
def LastInserted (history : List Call) (key : String) (value : Value) : Prop :=
  Since history (fun _ call => call.effect = .fills key value)
    fun next => next.effect ≠ .clears key ∧ ∀ other, next.effect ≠ .fills key other

/-- The call at a place inserted the key, which had no value then, and it has not been removed since.
This is the first insertion of the key after its last removal. -/
def EntersAt (history : List Call) (key : String) (place : Nat) : Prop :=
  Since history
    (fun before call => before.length = place ∧ ¬ Remains before key ∧
      ∃ value, call.effect = .fills key value)
    fun next => next.effect ≠ .clears key

/-- One key entered before another. -/
def EntersBefore (history : List Call) (first second : String) : Prop :=
  ∃ earlier later, EntersAt history first earlier ∧ EntersAt history second later ∧ earlier < later

/-- The entries list what is left of a history. -/
structure Lists (history : List Call) (entries : Entries Value) : Prop where
  /-- The keys are those that were inserted and not removed since. -/
  complete : ∀ key, key ∈ entries.keys ↔ Remains history key
  /-- No key stands twice. -/
  once : entries.HasDistinctKeys
  /-- The keys stand in the order of their first insertions after their last removals. -/
  ordered : entries.keys.Pairwise (EntersBefore history)
  /-- Beside a key stands the value inserted last. -/
  latest : ∀ key value, (key, value) ∈ entries ↔ LastInserted history key value

/-! ## One call more -/

theorem not_since_nil {happened : List Call → Call → Prop} {stays : Call → Prop} :
    ¬ Since [] happened stays := by
  rintro ⟨before, call, later, split, -⟩
  simp at split

/-- Something happened at the last call, or it had happened before and the last call left it so. -/
theorem since_concat {history : List Call} {last : Call} {happened : List Call → Call → Prop}
    {stays : Call → Prop} :
    Since (history ++ [last]) happened stays ↔
      happened history last ∨ (Since history happened stays ∧ stays last) := by
  constructor
  · rintro ⟨before, call, later, split, here, since⟩
    rcases List.eq_nil_or_concat' later with rfl | ⟨others, final, rfl⟩
    · obtain ⟨rfl, same⟩ := List.append_inj' split rfl
      obtain rfl := (List.cons.inj same).1
      exact .inl here
    · rw [← List.cons_append, ← List.append_assoc] at split
      obtain ⟨same, final⟩ := List.append_inj' split rfl
      obtain rfl := (List.cons.inj final).1
      exact .inr ⟨⟨before, call, others, same, here, fun next member =>
        since next (List.mem_append_left _ member)⟩, since last (List.mem_concat_self)⟩
  · rintro (here | ⟨⟨before, call, later, rfl, here, since⟩, stays⟩)
    · exact ⟨history, last, [], rfl, here, nofun⟩
    · refine ⟨before, call, later ++ [last], by simp, here, ?_⟩
      intro next member
      rcases List.mem_append.mp member with earlier | final
      · exact since next earlier
      · exact List.mem_singleton.mp final ▸ stays

section Concat

variable {history : List Call} {call : Call} {key : String}

theorem remains_concat : Remains (history ++ [call]) key ↔
    (∃ value, call.effect = .fills key value) ∨
      (Remains history key ∧ call.effect ≠ .clears key) :=
  since_concat

theorem lastInserted_concat {value : Value} : LastInserted (history ++ [call]) key value ↔
    call.effect = .fills key value ∨
      (LastInserted history key value ∧ call.effect ≠ .clears key ∧
        ∀ other, call.effect ≠ .fills key other) :=
  since_concat

theorem entersAt_concat {place : Nat} : EntersAt (history ++ [call]) key place ↔
    (history.length = place ∧ ¬ Remains history key ∧ ∃ value, call.effect = .fills key value) ∨
      (EntersAt history key place ∧ call.effect ≠ .clears key) :=
  since_concat

end Concat

/-! ## Places -/

section Places

variable {history : List Call} {key : String} {place : Nat}

theorem EntersAt.remains (enters : EntersAt history key place) : Remains history key := by
  obtain ⟨before, call, later, split, ⟨-, -, fills⟩, since⟩ := enters
  exact ⟨before, call, later, split, fills, since⟩

theorem EntersAt.lt_length (enters : EntersAt history key place) : place < history.length := by
  obtain ⟨before, call, later, rfl, ⟨rfl, -, -⟩, -⟩ := enters
  simp

/-- A key that remains entered at some place. -/
theorem Remains.entersAt (remains : Remains history key) : ∃ place, EntersAt history key place := by
  induction history using List.reverseRecOn with
  | nil => exact absurd remains not_since_nil
  | append_singleton history call ih =>
    by_cases before : Remains history key
    · -- an insertion now would only change the value
      obtain ⟨place, enters⟩ := ih before
      have kept : call.effect ≠ .clears key := by
        rcases remains_concat.mp remains with ⟨value, fills⟩ | ⟨-, kept⟩
        · simp [fills]
        · exact kept
      exact ⟨place, entersAt_concat.mpr (.inr ⟨enters, kept⟩)⟩
    · rcases remains_concat.mp remains with fills | ⟨earlier, -⟩
      · exact ⟨history.length, entersAt_concat.mpr (.inl ⟨rfl, before, fills⟩)⟩
      · exact absurd earlier before

/-- A key entered at one place only. -/
theorem EntersAt.unique {other : Nat} (enters : EntersAt history key place)
    (again : EntersAt history key other) : place = other := by
  induction history using List.reverseRecOn with
  | nil => exact absurd enters not_since_nil
  | append_singleton history call ih =>
    rcases entersAt_concat.mp enters with ⟨rfl, absent, -⟩ | ⟨earlier, -⟩
    · rcases entersAt_concat.mp again with ⟨same, -, -⟩ | ⟨earlier, -⟩
      · exact same
      · exact absurd earlier.remains absent
    · rcases entersAt_concat.mp again with ⟨-, absent, -⟩ | ⟨later, -⟩
      · exact absurd earlier.remains absent
      · exact ih earlier later

theorem EntersBefore.asymm {first second : String} (before : EntersBefore history first second) :
    ¬ EntersBefore history second first := by
  rintro ⟨thirdly, fourthly, entersSecond, entersFirst, less⟩
  obtain ⟨earlier, later, first, second, before⟩ := before
  rw [entersSecond.unique second, entersFirst.unique first] at less
  exact Nat.lt_asymm before less

end Places

/-! ## What a call leaves -/

namespace Lists

variable {history : List Call} {entries : Entries Value} {call : Call} {key : String}

theorem nil : Lists [] [] where
  complete _ := ⟨nofun, fun remains => absurd remains not_since_nil⟩
  once := .nil
  ordered := .nil
  latest _ _ := ⟨nofun, fun last => absurd last not_since_nil⟩

/-- The order of keys that a call does not remove stays as it was. -/
theorem ordered_concat {keys : List String} (ordered : keys.Pairwise (EntersBefore history))
    (kept : ∀ key ∈ keys, call.effect ≠ .clears key) :
    keys.Pairwise (EntersBefore (history ++ [call])) := by
  refine ordered.imp_of_mem fun {first second} memberFirst memberSecond before => ?_
  obtain ⟨earlier, later, entersFirst, entersSecond, less⟩ := before
  exact ⟨earlier, later, entersAt_concat.mpr (.inr ⟨entersFirst, kept _ memberFirst⟩),
    entersAt_concat.mpr (.inr ⟨entersSecond, kept _ memberSecond⟩), less⟩

/-- An insertion changes the value of a key that is there, or puts a new key behind the others. -/
theorem fills (lists : Lists history entries) {value : Value}
    (effect : call.effect = .fills key value) :
    Lists (history ++ [call]) (entries.insert key value) := by
  have distinct := lists.once.insert key value
  refine ⟨fun other => ?_, distinct, ?_, fun other found => ?_⟩
  · rw [remains_concat, ← Entries.isSome_get?_iff, Entries.get?_insert, effect]
    by_cases same : key = other
    · simp [same]
    · simp [same, Entries.isSome_get?_iff, lists.complete]
  · have kept : entries.keys.Pairwise (EntersBefore (history ++ [call])) :=
      ordered_concat lists.ordered (by simp [effect])
    rw [Entries.keys_insert]
    by_cases present : key ∈ entries.keys
    · rwa [if_pos present]
    · rw [if_neg present, List.pairwise_append]
      refine ⟨kept, List.pairwise_singleton _ _, ?_⟩
      intro other member new single
      obtain rfl := List.mem_singleton.mp single
      -- the new key enters now, and each of the others has entered before
      obtain ⟨place, enters⟩ := ((lists.complete other).mp member).entersAt
      refine ⟨place, history.length, entersAt_concat.mpr (.inr ⟨enters, by simp [effect]⟩),
        entersAt_concat.mpr (.inl ⟨rfl, ?_, value, effect⟩), enters.lt_length⟩
      rwa [← lists.complete]
  · rw [lastInserted_concat, ← Entries.get?_eq_some_iff distinct, Entries.get?_insert, effect]
    by_cases same : key = other
    · simp [same]
    · simp [same, Entries.get?_eq_some_iff lists.once, lists.latest]

/-- A removal takes the entry of the key away and leaves the others in their order. -/
theorem clears (lists : Lists history entries) (effect : call.effect = .clears key) :
    Lists (history ++ [call]) (entries.erase key) := by
  have distinct := lists.once.erase key
  have other (name : String) (member : name ∈ (entries.erase key).keys) :
      call.effect ≠ .clears name := by
    rw [Entries.keys_erase, List.Nodup.mem_erase_iff lists.once] at member
    simp [effect, Ne.symm member.1]
  refine ⟨fun other => ?_, distinct, ?_, fun other found => ?_⟩
  · rw [remains_concat, ← Entries.isSome_get?_iff, Entries.get?_erase lists.once, effect]
    by_cases same : key = other
    · simp [same]
    · simp [same, Entries.isSome_get?_iff, lists.complete]
  · refine ordered_concat ?_ other
    rw [Entries.keys_erase]
    exact lists.ordered.sublist List.erase_sublist
  · rw [lastInserted_concat, ← Entries.get?_eq_some_iff distinct, Entries.get?_erase lists.once,
      effect]
    by_cases same : key = other
    · simp [same]
    · simp [same, Entries.get?_eq_some_iff lists.once, lists.latest]

/-- Data that cannot be serialized leaves the entries as they are. -/
theorem nothing (lists : Lists history entries) (effect : call.effect = .nothing) :
    Lists (history ++ [call]) entries where
  complete key := by simp [remains_concat, effect, lists.complete]
  once := lists.once
  ordered := ordered_concat lists.ordered (by simp [effect])
  latest key value := by simp [lastInserted_concat, effect, lists.latest]

/-- Only one table lists what is left of a history. -/
theorem unique {left right : Entries Value} (listsLeft : Lists history left)
    (listsRight : Lists history right) : left = right := by
  have apart {entries : Entries Value} (lists : Lists history entries) : entries.Nodup :=
    List.Nodup.of_map Prod.fst lists.once
  have perm : left.Perm right := by
    refine (List.perm_ext_iff_of_nodup (apart listsLeft) (apart listsRight)).mpr ?_
    rintro ⟨key, value⟩
    rw [listsLeft.latest, listsRight.latest]
  have ordered {entries : Entries Value} (lists : Lists history entries) :=
    List.pairwise_map.mp lists.ordered
  refine perm.eq_of_pairwise ?_ (ordered listsLeft) (ordered listsRight)
  intro first second _ _ before behind
  exact absurd behind before.asymm

end Lists

/-- **A context lists what is left of its history.**  After any calls it holds exactly the keys that
were inserted and not removed since, each once, in the order of their first insertions after their
last removals, with the values inserted last. -/
theorem lists_after (history : List Call) : Lists history (after history).entries := by
  induction history using List.reverseRecOn with
  | nil => exact .nil
  | append_singleton history call ih =>
    rw [after_concat, perform_eq]
    cases effect : call.effect with
    | fills key value => exact ih.fills effect
    | clears key => exact ih.clears effect
    | nothing => exact ih.nothing effect

end Stencil.Context
