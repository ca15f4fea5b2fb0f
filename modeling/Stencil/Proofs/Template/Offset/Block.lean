import Stencil.Proofs.Template.Block
import Stencil.Proofs.Template.Offset.Tag

/-!
# Blocks by offsets

The search for the end of a block, with a cursor that goes from tag to tag.  It
ends because each tag stands wholly behind the cursor and inside of the range
(`TagAt.advances_of_nextTagAt`).

The search remembers the middle tag that it met, where `closeBlock` goes on with a
kind of block that has none; the two come to the same (`BlockAt.find_of_middle`).
In a range of the text it always has an answer, and that answer is where the parts
that `closeBlock` gives stand (`BlockAt.find_of_between`), so the parts of a block
stand one behind the other inside of the range (`BlockAt.Stands.advances`).
-/

set_option autoImplicit false

namespace Stencil.Template

open Text (Between IsSlice)

/-! ## The search -/

/-- A range of offsets. -/
structure Span where
  start : Nat
  stop : Nat
  deriving DecidableEq, Repr

/-- The places of the tags that divide and close a block. -/
structure BlockAt where
  /-- The tag that divides the block, if there is one. -/
  middle : Option Span
  /-- The offset of the mark that opens the closing tag. -/
  closer : Nat
  /-- The offset behind the closing tag. -/
  stop : Nat
  deriving DecidableEq, Repr

/-- The end of the block that a cursor is in, when so many blocks of its kind have been opened in it
and not closed and a middle tag may have been met. -/
def BlockAt.find (text : List Char) (kind : BlockKind) (limit depth : Nat) (middle : Option Span)
    (cursor : Nat) : Option (Option BlockAt) :=
  match next : nextTagAt text cursor limit with
  | none => none
  | some none => some none
  | some (some tag) =>
    have : limit - tag.stop < limit - cursor := by
      have advances := TagAt.advances_of_nextTagAt next
      have forward := advances.forward
      have inside := advances.after.ordered
      omega
    if tag.keyword = kind.opener then
      find text kind limit (depth + 1) middle tag.stop
    else if tag.keyword = kind.closer then
      match depth with
      | 0 => some (some ⟨middle, tag.start, tag.stop⟩)
      | outer + 1 => find text kind limit outer middle tag.stop
    else if depth = 0 ∧ middle = none ∧ some tag.keyword = kind.middle then
      find text kind limit depth (some ⟨tag.start, tag.stop⟩) tag.stop
    else
      find text kind limit depth middle tag.stop
termination_by limit - cursor

namespace BlockAt

variable {text piece : List Char} {kind : BlockKind} {limit depth cursor : Nat}

/-- What the search does at the first tag. -/
theorem find_of_nextTagAt {middle : Option Span} {tag : TagAt}
    (next : nextTagAt text cursor limit = some (some tag)) :
    find text kind limit depth middle cursor =
      if tag.keyword = kind.opener then
        find text kind limit (depth + 1) middle tag.stop
      else if tag.keyword = kind.closer then
        match depth with
        | 0 => some (some ⟨middle, tag.start, tag.stop⟩)
        | outer + 1 => find text kind limit outer middle tag.stop
      else if depth = 0 ∧ middle = none ∧ some tag.keyword = kind.middle then
        find text kind limit depth (some ⟨tag.start, tag.stop⟩) tag.stop
      else
        find text kind limit depth middle tag.stop := by
  rw [find]
  split
  · next missing => simp [next] at missing
  · next missing => simp [next] at missing
  · next other found =>
    obtain rfl : tag = other := by simpa [next] using found
    rfl

theorem find_of_no_tag {middle : Option Span} (next : nextTagAt text cursor limit = some none) :
    find text kind limit depth middle cursor = some none := by
  rw [find]
  split
  · next missing => simp [next] at missing
  · rfl
  · next tag found => simp [next] at found

theorem find_of_no_range {middle : Option Span} (next : nextTagAt text cursor limit = none) :
    find text kind limit depth middle cursor = none := by
  rw [find]
  split
  · rfl
  · next found => simp [next] at found
  · next tag found => simp [next] at found

/-- The block with a middle tag. -/
def dividedAt (span : Span) (block : BlockAt) : BlockAt :=
  { block with middle := some span }

/-- Behind its middle tag a block has no other. -/
theorem find_of_middle (span : Span) :
    find text kind limit depth (some span) cursor =
      (find text kind.undivided limit depth none cursor).map (Option.map (dividedAt span)) := by
  -- With a middle tag met none divides the block any more, so both searches go the same way.
  generalize met : some span = middle
  fun_induction find text kind limit depth middle cursor with
  | case1 depth middle cursor next =>
    rw [find_of_no_range next]
    rfl
  | case2 depth middle cursor next =>
    rw [find_of_no_tag next]
    rfl
  | case3 depth middle cursor tag next shorter opens ih =>
    rw [find_of_nextTagAt next, kind.opener_undivided, if_pos opens]
    exact ih met
  | case4 middle cursor tag next shorter opens closes =>
    subst met
    rw [find_of_nextTagAt next, kind.opener_undivided, if_neg opens, kind.closer_undivided,
      if_pos closes]
    rfl
  | case5 middle cursor tag next shorter opens closes outer ih =>
    rw [find_of_nextTagAt next, kind.opener_undivided, if_neg opens, kind.closer_undivided,
      if_pos closes]
    exact ih met
  | case6 depth middle cursor tag next shorter opens closes divides ih =>
    exact absurd (met.trans divides.2.1) (by simp)
  | case7 depth middle cursor tag next shorter opens closes divides ih =>
    have noMiddle : ¬ (depth = 0 ∧ (none : Option Span) = none ∧
        some tag.keyword = kind.undivided.middle) := by simp [BlockKind.undivided]
    rw [find_of_nextTagAt next, kind.opener_undivided, if_neg opens, kind.closer_undivided,
      if_neg closes, if_neg noMiddle]
    exact ih met

/-! ## Agreement with the search in a piece -/

/-- The parts of a block stand at its places in a range of a text. -/
structure Stands (text : List Char) (cursor limit : Nat) (found : BlockAt) (block : Block) :
    Prop where
  parts : match block.alternative with
    | none => found.middle = none ∧ Between text cursor found.closer block.body
    | some alternative => ∃ span, found.middle = some span ∧ span.start < span.stop ∧
        Between text cursor span.start block.body ∧ Between text span.stop found.closer alternative
  closed : found.closer < found.stop
  rest : Between text found.stop limit block.rest

/-- Something may stand before the body. -/
theorem Stands.prepend {found : BlockAt} {block : Block} {skipped : List Char} {start : Nat}
    (passed : Between text start cursor skipped) (stands : Stands text cursor limit found block) :
    Stands text start limit found (block.prepend skipped) where
  parts := by
    have parts := stands.parts
    simp only [Block.prepend]
    cases divided : block.alternative with
    | none =>
      rw [divided] at parts
      exact ⟨parts.1, passed.join parts.2⟩
    | some alternative =>
      rw [divided] at parts
      obtain ⟨span, met, order, body, second⟩ := parts
      exact ⟨span, met, order, passed.join body, second⟩
  closed := stands.closed
  rest := stands.rest

/-- A block without a middle tag gets one before it. -/
theorem Stands.divide {found : BlockAt} {block : Block} {before : List Char} {span : Span}
    (first : Between text cursor span.start before) (order : span.start < span.stop)
    (undivided : block.alternative = none) (stands : Stands text span.stop limit found block) :
    Stands text cursor limit (found.dividedAt span) ⟨before, some block.body, block.rest⟩ where
  parts := by
    have parts := stands.parts
    rw [undivided] at parts
    exact ⟨span, rfl, order, first, parts.2⟩
  closed := stands.closed
  rest := stands.rest

/-- An answer of the search gives the places of a block. -/
def Answers (text : List Char) (cursor limit : Nat) (answer : Option (Option BlockAt))
    (block : Option Block) : Prop :=
  ∃ found, answer = some found ∧ Option.Rel (Stands text cursor limit) found block

theorem Answers.prepend {answer : Option (Option BlockAt)} {block : Option Block}
    {skipped : List Char} {start : Nat} (passed : Between text start cursor skipped)
    (answers : Answers text cursor limit answer block) :
    Answers text start limit answer (block.map (.prepend skipped)) := by
  obtain ⟨found, rfl, agrees⟩ := answers
  cases agrees with
  | none => exact ⟨none, rfl, .none⟩
  | some stands => exact ⟨_, rfl, .some (stands.prepend passed)⟩

theorem Answers.divide {answer : Option (Option BlockAt)} {block : Option Block}
    {before : List Char} {span : Span} (first : Between text cursor span.start before)
    (order : span.start < span.stop) (undivided : ∀ inner ∈ block, inner.alternative = none)
    (answers : Answers text span.stop limit answer block) :
    Answers text cursor limit (answer.map (Option.map (dividedAt span)))
      (block.map fun inner => ⟨before, some inner.body, inner.rest⟩) := by
  obtain ⟨found, rfl, agrees⟩ := answers
  cases agrees with
  | none => exact ⟨none, rfl, .none⟩
  | some stands => exact ⟨_, rfl, .some (stands.divide first order (undivided _ rfl))⟩

/-- **The search for the end of a block.**  In a range of a text the end of a block is found at
its places. -/
theorem find_of_between (kind : BlockKind) (depth : Nat) (here : Between text cursor limit piece) :
    Answers text cursor limit (find text kind limit depth none cursor)
      (closeBlock kind depth piece) := by
  -- The cursor stands where the piece that is still to be searched starts.
  fun_induction closeBlock kind depth piece generalizing cursor with
  | case1 kind depth piece next =>
    have next' := nextTagAt_of_between here
    rw [next] at next'
    exact ⟨none, find_of_no_tag next', .none⟩
  | case2 kind depth piece found next shorter opens ih =>
    rw [find_of_nextTagAt (nextTagAt_of_nextTag here next), found.keyword_place, if_pos opens]
    exact (ih (FoundTag.between_after here next)).prepend (FoundTag.between_passed here next)
  | case3 kind piece found next shorter opens closes =>
    rw [find_of_nextTagAt (nextTagAt_of_nextTag here next), found.keyword_place, if_neg opens,
      if_pos closes]
    exact ⟨_, rfl, .some ⟨⟨rfl, FoundTag.between_before here next⟩,
      TagAt.start_lt_stop_ofInner _ _, FoundTag.between_after here next⟩⟩
  | case4 kind piece found next shorter opens closes outer ih =>
    rw [find_of_nextTagAt (nextTagAt_of_nextTag here next), found.keyword_place, if_neg opens,
      if_pos closes]
    exact (ih (FoundTag.between_after here next)).prepend (FoundTag.between_passed here next)
  | case5 kind depth piece found next shorter opens closes divides ih =>
    have met : depth = 0 ∧ (none : Option Span) = none ∧ some found.tag.keyword = kind.middle :=
      ⟨divides.1, rfl, divides.2⟩
    rw [find_of_nextTagAt (nextTagAt_of_nextTag here next), found.keyword_place, if_neg opens,
      if_neg closes, if_pos met, find_of_middle]
    exact (ih (FoundTag.between_after here next)).divide (FoundTag.between_before here next)
      (TagAt.start_lt_stop_ofInner _ _) fun block closed => alternative_of_closeBlock rfl closed
  | case6 kind depth piece found next shorter opens closes divides ih =>
    have keeps : ¬ (depth = 0 ∧ (none : Option Span) = none ∧
        some found.tag.keyword = kind.middle) := fun met => divides ⟨met.1, met.2.2⟩
    rw [find_of_nextTagAt (nextTagAt_of_nextTag here next), found.keyword_place, if_neg opens,
      if_neg closes, if_neg keeps]
    exact (ih (FoundTag.between_after here next)).prepend (FoundTag.between_passed here next)

/-! ## The way that the search makes -/

/-- The parts and tags of a block stand one behind the other from the cursor to the limit, and a
text can be cut between them. -/
structure Advances (found : BlockAt) (text : List Char) (cursor limit : Nat) : Prop where
  parts : match found.middle with
    | none => IsSlice text cursor found.closer
    | some span => IsSlice text cursor span.start ∧ span.start < span.stop ∧
        IsSlice text span.stop found.closer
  closed : found.closer < found.stop
  rest : IsSlice text found.stop limit

theorem Stands.advances {found : BlockAt} {block : Block}
    (stands : Stands text cursor limit found block) : found.Advances text cursor limit where
  parts := by
    have parts := stands.parts
    cases divided : block.alternative with
    | none =>
      rw [divided] at parts
      rw [parts.1]
      exact parts.2.isSlice
    | some alternative =>
      rw [divided] at parts
      obtain ⟨span, met, order, body, second⟩ := parts
      rw [met]
      exact ⟨body.isSlice, order, second.isSlice⟩
  closed := stands.closed
  rest := stands.rest.isSlice

/-- Where a text can be cut the search has an answer, and a block that it finds lies in the
range. -/
theorem exists_find (range : IsSlice text cursor limit) (kind : BlockKind) (depth : Nat) :
    ∃ found, find text kind limit depth none cursor = some found ∧
      ∀ block ∈ found, block.Advances text cursor limit := by
  obtain ⟨piece, here⟩ := Text.isSlice_iff_exists_between.mp range
  obtain ⟨found, searched, agrees⟩ := find_of_between kind depth here
  refine ⟨found, searched, ?_⟩
  rintro block present
  rw [Option.mem_def] at present
  subst present
  generalize closeBlock kind depth piece = closed at agrees
  cases agrees with
  | some stands => exact stands.advances

end BlockAt

end Stencil.Template
