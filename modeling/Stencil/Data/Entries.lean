/-!
# Entries in insertion order

A table from names to values whose entries keep the order in which their names
were first inserted.  Inserting under a name that is present changes its value in
place; erasing a name closes the gap and leaves the order of the others.

A table is a plain list of pairs, so that it can stand inside recursive types.
`HasDistinctKeys` says that no name stands twice; every operation keeps it.
-/

set_option autoImplicit false

namespace Stencil

/-- Pairs of names and values, in insertion order. -/
abbrev Entries (α : Type) : Type := List (String × α)

namespace Entries

variable {α : Type}

/-- The names, in order. -/
def keys (entries : Entries α) : List String :=
  entries.map Prod.fst

/-- No name stands twice. -/
def HasDistinctKeys (entries : Entries α) : Prop :=
  entries.keys.Nodup

/-- The value under a name. -/
def get? (entries : Entries α) (key : String) : Option α :=
  match entries with
  | [] => none
  | (name, value) :: rest => if name = key then some value else get? rest key

/-- Whether a name is present. -/
def contains (entries : Entries α) (key : String) : Bool :=
  (entries.get? key).isSome

/-- The entries with the value under a name replaced, or with a new entry at the end. -/
def insert (entries : Entries α) (key : String) (value : α) : Entries α :=
  match entries with
  | [] => [(key, value)]
  | (name, old) :: rest =>
    if name = key then (name, value) :: rest else (name, old) :: insert rest key value

/-- The entries without a name. -/
def erase (entries : Entries α) (key : String) : Entries α :=
  match entries with
  | [] => []
  | (name, value) :: rest => if name = key then rest else (name, value) :: erase rest key

/-- The entries made by inserting pairs one after the other. -/
def ofPairs (pairs : List (String × α)) : Entries α :=
  pairs.foldl (fun entries pair => entries.insert pair.1 pair.2) []

/-- Entries in the order of their names. -/
def sorted (entries : Entries α) : Entries α :=
  entries.mergeSort fun left right => decide (left.1 ≤ right.1)

/-- The value just inserted is found, and the other names keep theirs. -/
theorem get?_insert (entries : Entries α) (key other : String) (value : α) :
    (entries.insert key value).get? other = if key = other then some value else entries.get? other := by
  induction entries with
  | nil => simp [insert, get?]
  | cons entry rest ih =>
    obtain ⟨name, old⟩ := entry
    by_cases same : name = key
    · subst same
      by_cases found : name = other <;> simp [insert, get?, found]
    · by_cases found : name = other
      · subst found
        simp [insert, get?, same, Ne.symm same]
      · simp [insert, get?, same, found, ih]

/-- Inserting adds a name at the end unless it is present. -/
theorem keys_insert (entries : Entries α) (key : String) (value : α) :
    (entries.insert key value).keys =
      if key ∈ entries.keys then entries.keys else entries.keys ++ [key] := by
  induction entries with
  | nil => simp [insert, keys]
  | cons entry rest ih =>
    obtain ⟨name, old⟩ := entry
    by_cases same : name = key
    · simp [insert, keys, same]
    · have tail : List.map Prod.fst (insert rest key value) =
          if key ∈ List.map Prod.fst rest then List.map Prod.fst rest
          else List.map Prod.fst rest ++ [key] := ih
      by_cases present : key ∈ List.map Prod.fst rest
      · simp only [insert, keys, if_neg same, List.map_cons, List.mem_cons, tail,
          present, or_true, if_true]
      · simp only [insert, keys, if_neg same, List.map_cons, List.mem_cons, tail,
          present, or_false, Ne.symm same, if_false, List.cons_append]

/-- Inserting keeps the names distinct. -/
theorem HasDistinctKeys.insert {entries : Entries α} (distinct : entries.HasDistinctKeys)
    (key : String) (value : α) : (entries.insert key value).HasDistinctKeys := by
  unfold HasDistinctKeys at distinct ⊢
  rw [keys_insert]
  by_cases present : key ∈ entries.keys
  · rw [if_pos present]
    exact distinct
  · rw [if_neg present, List.nodup_append]
    refine ⟨distinct, by simp, ?_⟩
    intro name member other single
    rw [List.mem_singleton] at single
    subst single
    exact fun same => present (same ▸ member)

end Entries

end Stencil
