import Stencil.Proofs.Template.Block
import Stencil.Proofs.Template.Offset.Tag

/-!
# The tags of a range

The tags between two offsets of a text, listed from the first to the last.  A tag is
closed by the first mark behind it, and the next one is looked for right behind that
mark.  The list ends where no tag opens, or at one that is not closed inside of the
range.

A place in the list cuts the text: the tags behind it are those of the range that
starts at its end (`tagsAt_stop`), the tags before it those of the range that stops
at its start (`tagsAt_start`).  So a part of the range that ends at a listed tag has
no tags but listed ones.
-/

set_option autoImplicit false

namespace Stencil.Template

open Text (IsSlice Mark cutAt_before)

/-! ## The first tag of a shorter text -/

/-- Before the first tag of a text there is none. -/
theorem nextTag_before {text : List Char} {found : FoundTag} (next : nextTag text = some found) :
    nextTag found.before = none := by
  unfold nextTag at next
  split at next
  · cases next
  · next before opened cut =>
    obtain ⟨⟨inner, after⟩, -, rfl⟩ := Option.map_eq_some_iff.mp next
    simp only [nextTag, cutAt_before cut]

/-- The first tag of a text comes first whatever stands behind it. -/
theorem nextTag_passed_append {text : List Char} {found : FoundTag}
    (next : nextTag text = some found) (more : List Char) :
    nextTag (found.passed ++ more) = some { found with after := more } := by
  unfold nextTag at next
  split at next
  · cases next
  · next before opened cut =>
    obtain ⟨⟨inner, after⟩, closed, rfl⟩ := Option.map_eq_some_iff.mp next
    have unopened := Text.cutAt_eq_none_iff.mp (cutAt_before cut)
    have unclosed := Text.cutAt_eq_none_iff.mp (cutAt_before closed)
    have seam : ¬ openTag.Straddles before (tagText inner ++ more) := by
      simp [Mark.Straddles, tagText, openTag, Mark.text]
    have whole : FoundTag.passed ⟨before, inner, after⟩ ++ more =
        before ++ (tagText inner ++ more) := by
      simp [FoundTag.passed, FoundTag.source, tagText]
    rw [whole, nextTag_append_of_not_occursIn unopened seam, nextTag_tagText more unclosed]
    simp [FoundTag.prepend]

variable {text : List Char} {limit cursor : Nat}

/-- Before the first tag of a range there is none. -/
theorem nextTagAt_start {tag : TagAt} (next : nextTagAt text cursor limit = some (some tag)) :
    nextTagAt text cursor tag.start = some none := by
  obtain ⟨piece, here, same⟩ := exists_between_of_nextTagAt next
  obtain ⟨found, next', rfl⟩ := Option.map_eq_some_iff.mp same.symm
  rw [nextTagAt_of_between (FoundTag.between_before here next'), nextTag_before next',
    Option.map_none]

/-- The first tag of a range is the first one of any shorter range that holds it. -/
theorem nextTagAt_shorten {tag : TagAt} {nearer : Nat}
    (next : nextTagAt text cursor limit = some (some tag)) (holds : IsSlice text tag.stop nearer) :
    nextTagAt text cursor nearer = some (some tag) := by
  obtain ⟨piece, here, same⟩ := exists_between_of_nextTagAt next
  obtain ⟨found, next', rfl⟩ := Option.map_eq_some_iff.mp same.symm
  obtain ⟨more, between⟩ := Text.isSlice_iff_exists_between.mp holds
  have shorter := (FoundTag.between_passed here next').join between
  have same : FoundTag.place { found with after := more } cursor = found.place cursor := rfl
  rw [← same]
  exact nextTagAt_of_nextTag shorter (nextTag_passed_append next' more)

/-! ## The list -/

/-- The tags between two offsets of a text, up to the first that is not closed. -/
def tagsAt (text : List Char) (limit cursor : Nat) : List TagAt :=
  match next : nextTagAt text cursor limit with
  | some (some tag) =>
    have : limit - tag.stop < limit - cursor := by
      have advances := TagAt.advances_of_nextTagAt next
      have forward := advances.forward
      have inside := advances.after.ordered
      omega
    tag :: tagsAt text limit tag.stop
  | _ => []
termination_by limit - cursor

theorem tagsAt_of_nextTagAt {tag : TagAt} (next : nextTagAt text cursor limit = some (some tag)) :
    tagsAt text limit cursor = tag :: tagsAt text limit tag.stop := by
  rw [tagsAt]
  split
  · next other found =>
    obtain rfl : tag = other := by simpa [next] using found
    rfl
  · next missing => exact absurd next (missing tag)

theorem tagsAt_of_no_tag (next : nextTagAt text cursor limit = some none) :
    tagsAt text limit cursor = [] := by
  rw [tagsAt]
  split
  · next tag found => simp [next] at found
  · rfl

theorem tagsAt_eq_cons {tag : TagAt} {tags : List TagAt}
    (listed : tagsAt text limit cursor = tag :: tags) :
    nextTagAt text cursor limit = some (some tag) ∧ tagsAt text limit tag.stop = tags := by
  rw [tagsAt] at listed
  split at listed
  · next other next =>
    obtain ⟨rfl, rfl⟩ := List.cons.inj listed
    exact ⟨next, rfl⟩
  · cases listed

/-- A listed tag stands in the range. -/
theorem TagAt.advances_of_mem_tagsAt {tag : TagAt} (listed : tag ∈ tagsAt text limit cursor) :
    tag.Advances text cursor limit := by
  fun_induction tagsAt text limit cursor with
  | case1 cursor first next shorter ih =>
    have here := TagAt.advances_of_nextTagAt next
    rcases List.mem_cons.mp listed with rfl | later
    · exact here
    · have there := ih later
      have ordered : cursor ≤ tag.start := here.forward.le.trans there.before.ordered
      exact { there with before := ⟨ordered, here.before.starts, there.before.stops⟩ }
  | case2 => cases listed

/-! ## Cutting the list -/

section Cut

variable {before after : List TagAt} {tag : TagAt}

/-- The tags behind a listed tag. -/
theorem tagsAt_stop (listed : tagsAt text limit cursor = before ++ tag :: after) :
    tagsAt text limit tag.stop = after := by
  induction before generalizing cursor with
  | nil => exact (tagsAt_eq_cons listed).2
  | cons first before ih => exact ih (tagsAt_eq_cons listed).2

/-- The tags before a listed tag. -/
theorem tagsAt_start (listed : tagsAt text limit cursor = before ++ tag :: after) :
    tagsAt text tag.start cursor = before := by
  induction before generalizing cursor with
  | nil => exact tagsAt_of_no_tag (nextTagAt_start (tagsAt_eq_cons listed).1)
  | cons first before ih =>
    obtain ⟨next, later⟩ := tagsAt_eq_cons listed
    have member : tag ∈ tagsAt text limit first.stop := by simp [later]
    have between := (TagAt.advances_of_mem_tagsAt member).before
    rw [tagsAt_of_nextTagAt (nextTagAt_shorten next between), ih later]

theorem start_lt_stop_of_mem_tagsAt (listed : tag ∈ tagsAt text limit cursor) :
    tag.start < tag.stop :=
  (TagAt.advances_of_mem_tagsAt listed).start_lt_stop

theorem start_lt_of_mem_before (listed : tagsAt text limit cursor = before ++ tag :: after)
    {other : TagAt} (earlier : other ∈ before) : other.start < tag.start := by
  rw [← tagsAt_start listed] at earlier
  have advances := TagAt.advances_of_mem_tagsAt earlier
  exact advances.start_lt_stop.trans_le advances.after.ordered

theorem start_lt_of_mem_after (listed : tagsAt text limit cursor = before ++ tag :: after)
    {other : TagAt} (later : other ∈ after) : tag.start < other.start := by
  have here : tag ∈ tagsAt text limit cursor := by simp [listed]
  rw [← tagsAt_stop listed] at later
  exact (start_lt_stop_of_mem_tagsAt here).trans_le
    (TagAt.advances_of_mem_tagsAt later).before.ordered

/-- The listed tags that start before a listed tag are those before it in the list. -/
theorem mem_before_of_start_lt (listed : tagsAt text limit cursor = before ++ tag :: after)
    {other : TagAt} (member : other ∈ tagsAt text limit cursor) (earlier : other.start < tag.start) :
    other ∈ before := by
  rw [listed, List.mem_append, List.mem_cons] at member
  rcases member with here | rfl | later
  · exact here
  · exact absurd earlier (Nat.lt_irrefl _)
  · exact absurd earlier (start_lt_of_mem_after listed later).not_gt

end Cut

end Stencil.Template
