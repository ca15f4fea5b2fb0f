import Mathlib.Data.List.Induction
import Mathlib.Data.List.Perm.Subperm
import Stencil.Data.Entries

/-!
# Entries made by insertion

Inserting pairs one after the other leaves under each name the value of the last pair
of that name (`get?_ofPairs`), and the names in the order in which they come up for
the first time (`keys_ofPairs`).  Bindings that are inserted over entries hide them, and
the most recent binding of a name hides the others (`get?_overlaid`).

Where no name stands twice, what is found under a name is what stands beside it, and two
tables with as many names can be compared entry by entry or name by name
(`rel_get?_iff`).
-/

set_option autoImplicit false

namespace Stencil.Entries

variable {α β : Type}

/-! ## Entries and their names -/

theorem get?_append (left right : Entries α) (key : String) :
    get? (left ++ right) key = (get? left key).or (get? right key) := by
  induction left with
  | nil => rfl
  | cons entry rest ih =>
    obtain ⟨name, value⟩ := entry
    rw [List.cons_append, get?, get?]
    split
    · rfl
    · exact ih

theorem mem_of_get?_eq_some {entries : Entries α} {name : String} {value : α}
    (found : get? entries name = some value) : (name, value) ∈ entries := by
  induction entries with
  | nil => cases found
  | cons entry rest ih =>
    obtain ⟨key, first⟩ := entry
    rw [get?] at found
    split at found
    · next same =>
      obtain rfl := Option.some.inj found
      exact same ▸ List.mem_cons_self
    · exact List.mem_cons_of_mem _ (ih found)

/-- Of several tables behind each other the first one with a name decides. -/
theorem get?_flatMap (tables : List β) (entries : β → Entries α) (key : String) :
    get? (tables.flatMap entries) key = tables.findSome? fun table => get? (entries table) key := by
  induction tables with
  | nil => rfl
  | cons table rest ih =>
    rw [List.flatMap_cons, get?_append, ih, List.findSome?_cons]
    cases get? (entries table) key <;> rfl

/-- Where no name stands twice, a name is looked up by searching for it. -/
theorem get?_filterMap {named : β → String} {items : List β} (apart : (items.map named).Nodup)
    (value? : β → Option α) (key : String) :
    get? (items.filterMap fun item => (value? item).map (named item, ·)) key =
      (items.find? fun item => named item = key).bind value? := by
  induction items with
  | nil => rfl
  | cons item rest ih =>
    rw [List.map_cons, List.nodup_cons] at apart
    by_cases here : named item = key
    · -- the name is here, so that none of the others has it
      have elsewhere : (rest.find? fun other => named other = key) = none := by
        rw [List.find?_eq_none]
        intro other member same
        have name := of_decide_eq_true same
        exact apart.1 (List.mem_map.mpr ⟨other, member, name.trans here.symm⟩)
      have later := ih apart.2
      rw [elsewhere, Option.bind_none] at later
      cases value : value? item with
      | none => simp [here, value, later]
      | some found => simp [here, value, get?]
    · cases value : value? item with
      | none => simp [here, value, ih apart.2]
      | some found => simp [here, value, get?, ih apart.2]

/-! ## Entries with distinct names -/

instance (entries : Entries α) : Decidable entries.HasDistinctKeys :=
  inferInstanceAs (Decidable (List.Nodup _))

theorem isSome_get?_iff {entries : Entries α} {name : String} :
    (get? entries name).isSome = true ↔ name ∈ entries.keys := by
  induction entries with
  | nil => simp [get?, keys]
  | cons entry rest ih =>
    obtain ⟨key, value⟩ := entry
    rw [get?, keys, List.map_cons, List.mem_cons, ← keys, ← ih]
    by_cases same : key = name
    · simp [same]
    · simp [same, Ne.symm same]

/-- Where no name stands twice, what is found under a name is what stands beside it. -/
theorem get?_eq_some_iff {entries : Entries α} (distinct : entries.HasDistinctKeys) {name : String}
    {value : α} : get? entries name = some value ↔ (name, value) ∈ entries := by
  refine ⟨mem_of_get?_eq_some, fun member => ?_⟩
  induction entries with
  | nil => cases member
  | cons entry rest ih =>
    obtain ⟨key, first⟩ := entry
    rw [HasDistinctKeys, keys, List.map_cons, List.nodup_cons] at distinct
    rw [get?]
    rcases List.mem_cons.mp member with here | later
    · obtain ⟨rfl, rfl⟩ := Prod.mk.inj here
      exact if_pos rfl
    · have other : key ≠ name := fun same =>
        distinct.1 (same ▸ List.mem_map.mpr ⟨(name, value), later, rfl⟩)
      rw [if_neg other, ih distinct.2 later]

/-- Two tables are as long as each other, and the second has for each entry of the first a related
value under the same name, exactly if they have related values or none under every name. -/
theorem rel_get?_iff {left : Entries α} {right : Entries β} {Related : α → β → Prop}
    (distinctLeft : left.HasDistinctKeys) (distinctRight : right.HasDistinctKeys) :
    (left.length = right.length ∧ ∀ name value, (name, value) ∈ left →
        ∃ other, get? right name = some other ∧ Related value other) ↔
      ∀ name, Option.Rel Related (get? left name) (get? right name) := by
  constructor
  · rintro ⟨length, inside⟩ name
    have subset : left.keys ⊆ right.keys := by
      intro key member
      obtain ⟨⟨_, value⟩, here, rfl⟩ := List.mem_map.mp member
      obtain ⟨other, found, -⟩ := inside _ value here
      exact isSome_get?_iff.mp (found ▸ rfl)
    -- the names on the right are no more than those on the left, so there are no others
    have perm : left.keys.Perm right.keys := by
      refine (List.subperm_of_subset distinctLeft subset).perm_of_length_le ?_
      simp only [keys, List.length_map, length, Nat.le_refl]
    cases found : get? left name with
    | some value =>
      obtain ⟨other, there, related⟩ := inside name value (mem_of_get?_eq_some found)
      rw [there]
      exact .some related
    | none =>
      have absent : name ∉ right.keys := by
        rw [← perm.mem_iff, ← isSome_get?_iff, found]
        exact Bool.false_ne_true
      rw [← isSome_get?_iff, Option.not_isSome_iff_eq_none] at absent
      rw [absent]
      exact .none
  · intro related
    have same (name : String) : name ∈ left.keys ↔ name ∈ right.keys := by
      rw [← isSome_get?_iff, ← isSome_get?_iff]
      have here := related name
      generalize get? left name = first, get? right name = second at here
      cases here <;> simp
    have perm := (List.perm_ext_iff_of_nodup distinctLeft distinctRight).mpr same
    refine ⟨by simpa only [keys, List.length_map] using perm.length_eq, ?_⟩
    intro name value member
    have here := related name
    rw [(get?_eq_some_iff distinctLeft).mpr member] at here
    generalize get? right name = second at here
    cases here with
    | some related => exact ⟨_, rfl, related⟩

/-! ## Insertion -/

theorem ofPairs_concat (pairs : List (String × α)) (pair : String × α) :
    ofPairs (pairs ++ [pair]) = (ofPairs pairs).insert pair.1 pair.2 := by
  rw [ofPairs, List.foldl_append, List.foldl_cons, List.foldl_nil, ofPairs]

/-- The last of several pairs of one name counts. -/
theorem get?_ofPairs (pairs : List (String × α)) (key : String) :
    get? (ofPairs pairs) key = get? pairs.reverse key := by
  induction pairs using List.reverseRecOn with
  | nil => rfl
  | append_singleton pairs pair ih =>
    obtain ⟨name, value⟩ := pair
    rw [ofPairs_concat, get?_insert, ih, List.reverse_concat, get?]

/-- The names come in the order in which they were first inserted, each once. -/
theorem keys_ofPairs (pairs : List (String × α)) :
    (ofPairs pairs).keys = (pairs.map Prod.fst).eraseDups := by
  induction pairs using List.reverseRecOn with
  | nil => rfl
  | append_singleton pairs pair ih =>
    rw [ofPairs_concat, keys_insert, ih, List.map_append, List.eraseDups_append]
    by_cases present : pair.1 ∈ pairs.map Prod.fst
    · rw [if_pos (List.mem_eraseDups.mpr present)]
      simp [List.removeAll, present]
    · rw [if_neg (fun member => present (List.mem_eraseDups.mp member))]
      simp [List.removeAll, present, List.eraseDups_cons]

theorem insert_of_not_mem {entries : Entries α} {key : String} (absent : key ∉ entries.keys)
    (value : α) : entries.insert key value = entries ++ [(key, value)] := by
  induction entries with
  | nil => rfl
  | cons entry rest ih =>
    obtain ⟨name, old⟩ := entry
    rw [keys, List.map_cons, List.mem_cons, not_or] at absent
    rw [insert, if_neg (Ne.symm absent.1), ih absent.2, List.cons_append]

/-- Pairs of which no two have the same name are the entries that they make. -/
theorem ofPairs_of_distinct {pairs : List (String × α)} (distinct : HasDistinctKeys pairs) :
    ofPairs pairs = pairs := by
  induction pairs using List.reverseRecOn with
  | nil => rfl
  | append_singleton pairs pair ih =>
    rw [HasDistinctKeys, keys, List.map_append, List.nodup_append] at distinct
    obtain ⟨inner, -, apart⟩ := distinct
    have absent : pair.1 ∉ keys pairs := fun member =>
      apart pair.1 member pair.1 (List.mem_singleton_self _) rfl
    rw [ofPairs_concat, ih inner, insert_of_not_mem absent]

/-! ## Converting the values -/

/-- The entries with their values converted. -/
def mapValues (convert : α → β) (entries : Entries α) : Entries β :=
  entries.map fun entry => (entry.1, convert entry.2)

theorem mapValues_insert (convert : α → β) (entries : Entries α) (key : String) (value : α) :
    mapValues convert (entries.insert key value) =
      (mapValues convert entries).insert key (convert value) := by
  induction entries with
  | nil => rfl
  | cons entry rest ih =>
    obtain ⟨name, old⟩ := entry
    rw [mapValues, mapValues] at ih
    by_cases same : name = key
    · simp [insert, mapValues, same]
    · simp [insert, mapValues, same, ih]

theorem mapValues_ofPairs (convert : α → β) (pairs : List (String × α)) :
    mapValues convert (ofPairs pairs) = ofPairs (mapValues convert pairs) := by
  induction pairs using List.reverseRecOn with
  | nil => rfl
  | append_singleton pairs pair ih =>
    rw [ofPairs_concat, mapValues_insert, ih, mapValues, mapValues, List.map_append, List.map_cons,
      List.map_nil, ofPairs_concat]

/-- Entries are sorted by their names, whatever their values are. -/
theorem mapValues_sorted (convert : α → β) (entries : Entries α) :
    mapValues convert entries.sorted = (mapValues convert entries).sorted :=
  List.map_mergeSort fun _ _ _ _ => rfl

/-- Pairs in the strict order of their names are the sorted entries that they make. -/
theorem sorted_ofPairs_of_ordered {pairs : List (String × α)}
    (ordered : pairs.Pairwise fun left right => left.1 < right.1) :
    (ofPairs pairs).sorted = pairs := by
  have distinct : HasDistinctKeys pairs :=
    List.pairwise_map.mpr (ordered.imp fun less => String.ne_of_lt less)
  rw [ofPairs_of_distinct distinct]
  exact List.mergeSort_of_pairwise (ordered.imp fun less => decide_eq_true (String.not_lt.mp (String.lt_asymm less)))

/-! ## Erasing -/

/-- Erasing a name closes the gap and leaves the order of the others. -/
theorem keys_erase (entries : Entries α) (key : String) :
    (entries.erase key).keys = entries.keys.erase key := by
  induction entries with
  | nil => rfl
  | cons entry rest ih =>
    obtain ⟨name, value⟩ := entry
    by_cases same : name = key
    · simp [erase, keys, same]
    · have tail : List.map Prod.fst (erase rest key) = (List.map Prod.fst rest).erase key := ih
      simp [erase, keys, same, tail]

theorem HasDistinctKeys.erase {entries : Entries α} (distinct : entries.HasDistinctKeys)
    (key : String) : (entries.erase key).HasDistinctKeys := by
  unfold HasDistinctKeys at distinct ⊢
  rw [keys_erase]
  exact List.Nodup.erase key distinct

/-- Where no name stands twice, nothing is found under an erased name, and the others keep theirs. -/
theorem get?_erase {entries : Entries α} (distinct : entries.HasDistinctKeys) (key other : String) :
    (entries.erase key).get? other = if key = other then none else entries.get? other := by
  induction entries with
  | nil => simp [Entries.erase, get?]
  | cons entry rest ih =>
    obtain ⟨name, value⟩ := entry
    rw [HasDistinctKeys, keys, List.map_cons, List.nodup_cons] at distinct
    by_cases here : name = key
    · subst here
      -- the name does not stand in the rest once more
      have gone : get? rest name = none := by
        rw [← Option.not_isSome_iff_eq_none, isSome_get?_iff]
        exact distinct.1
      by_cases same : name = other
      · simp [Entries.erase, ← same, gone]
      · simp [Entries.erase, get?, same]
    · by_cases same : name = other
      · subst same
        simp [Entries.erase, get?, here, Ne.symm here]
      · simp [Entries.erase, get?, here, same, ih distinct.2]

/-! ## Bindings over entries -/

/-- The entries with bindings inserted over them, the last of the list first. -/
def overlaid (entries : Entries α) (locals : List (String × α)) : Entries α :=
  locals.foldr (fun binding below => below.insert binding.1 binding.2) entries

/-- The first binding of a name counts, and without one the entry. -/
theorem get?_overlaid (entries : Entries α) (locals : List (String × α)) (name : String) :
    get? (entries.overlaid locals) name = (get? locals name).or (get? entries name) := by
  induction locals with
  | nil => rfl
  | cons binding locals ih =>
    obtain ⟨boundName, bound⟩ := binding
    rw [overlaid, List.foldr_cons, get?_insert, get?]
    by_cases same : boundName = name
    · rw [if_pos same, if_pos same]
      rfl
    · rw [if_neg same, if_neg same]
      exact ih

end Stencil.Entries
