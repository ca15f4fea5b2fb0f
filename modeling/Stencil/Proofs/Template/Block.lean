import Stencil.Proofs.Text.Cut
import Stencil.Template.Block

/-!
# How the end of a block is found

The search for the end of a block looks at tags alone.  One turn of it is
`closeBlock_of_nextTag`; everything below follows from that equation and never
opens the search again.

Text *passes* at a depth when the search goes over it and is at the same depth
behind it, whatever follows (`BlockKind.Passes`).  Plain text passes, a tag of
another kind passes, and so does a whole block of the same kind around text that
passes one level deeper (`passes_enclosed`).  Passing texts written one after the
other pass (`BlockKind.Passes.append`).

Behind text that passes, the first closing tag ends the block
(`closeBlock_closing`) and the first middle tag divides it
(`closeBlock_dividing`).
-/

set_option autoImplicit false

namespace Stencil.Template

open Text (Mark cutAt cutAt_append_of_not_occursIn cutAt_mark)

/-- The text of a tag with some text between its marks. -/
def tagText (inner : List Char) : List Char :=
  openTag.text ++ inner ++ closeTag.text

/-! ## The first tag of a text -/

/-- The tag with some text put in front of everything. -/
def FoundTag.prepend (skipped : List Char) (found : FoundTag) : FoundTag :=
  { found with before := skipped ++ found.before }

@[simp]
theorem FoundTag.tag_prepend (skipped : List Char) (found : FoundTag) :
    (found.prepend skipped).tag = found.tag := rfl

@[simp]
theorem FoundTag.passed_prepend (skipped : List Char) (found : FoundTag) :
    (found.prepend skipped).passed = skipped ++ found.passed := by
  simp [FoundTag.prepend, FoundTag.passed, FoundTag.source]

/-- Text without an opening mark does not change which tag comes first, unless the mark stands across
its end. -/
theorem nextTag_append_of_not_occursIn {skipped text : List Char}
    (free : ¬ openTag.OccursIn skipped) (seam : ¬ openTag.Straddles skipped text) :
    nextTag (skipped ++ text) = (nextTag text).map (.prepend skipped) := by
  simp only [nextTag, cutAt_append_of_not_occursIn free seam]
  cases cutAt openTag text with
  | none => rfl
  | some sides =>
    simp only [Option.map_some, Option.map_map]
    rfl

/-- A tag whose inside does not contain the closing mark comes first in its own text. -/
theorem nextTag_tagText {inner : List Char} (rest : List Char)
    (free : ¬ closeTag.OccursIn inner) :
    nextTag (tagText inner ++ rest) = some ⟨[], inner, rest⟩ := by
  have opened : cutAt openTag (tagText inner ++ rest) =
      some ([], inner ++ closeTag.text ++ rest) := by
    simp [tagText, openTag, Mark.text, cutAt]
  have seam : ¬ closeTag.Straddles inner closeTag.text := by
    simp [Mark.Straddles, closeTag, Mark.text]
  simp only [nextTag, opened, cutAt_mark rest free seam, Option.map_some]

/-! ## One turn of the search -/

theorem Block.prepend_append (skipped more : List Char) (block : Block) :
    block.prepend (skipped ++ more) = (block.prepend more).prepend skipped := by
  simp [Block.prepend]

/-- The block of a kind from its middle tag on. -/
def BlockKind.undivided (kind : BlockKind) : BlockKind :=
  { kind with middle := none }

theorem BlockKind.opener_undivided (kind : BlockKind) : kind.undivided.opener = kind.opener := rfl

theorem BlockKind.closer_undivided (kind : BlockKind) : kind.undivided.closer = kind.closer := rfl

/-- What the search does at the first tag. -/
theorem closeBlock_of_nextTag {kind : BlockKind} {depth : Nat} {text : List Char}
    {found : FoundTag} (next : nextTag text = some found) :
    closeBlock kind depth text =
      if found.tag.keyword = kind.opener then
        (closeBlock kind (depth + 1) found.after).map (.prepend found.passed)
      else if found.tag.keyword = kind.closer then
        match depth with
        | 0 => some ⟨found.before, none, found.after⟩
        | outer + 1 => (closeBlock kind outer found.after).map (.prepend found.passed)
      else if depth = 0 ∧ some found.tag.keyword = kind.middle then
        (closeBlock kind.undivided depth found.after).map fun block =>
          ⟨found.before, some block.body, block.rest⟩
      else (closeBlock kind depth found.after).map (.prepend found.passed) := by
  rw [closeBlock]
  split
  · next missing => simp [next] at missing
  · next other found' =>
    obtain rfl : found = other := by simpa [next] using found'
    rfl

/-- Without a tag no block ends. -/
theorem closeBlock_of_no_tag {kind : BlockKind} {depth : Nat} {text : List Char}
    (next : nextTag text = none) : closeBlock kind depth text = none := by
  rw [closeBlock]
  split
  · rfl
  · next found found' => simp [next] at found'

/-- A block of a kind without a middle tag is not divided. -/
theorem alternative_of_closeBlock {kind : BlockKind} {depth : Nat} {text : List Char}
    {block : Block} (noMiddle : kind.middle = none)
    (closed : closeBlock kind depth text = some block) : block.alternative = none := by
  fun_induction closeBlock kind depth text generalizing block with
  | case1 => simp at closed
  | case2 kind depth text found next shorter opens ih =>
    obtain ⟨inner, closedInner, rfl⟩ := Option.map_eq_some_iff.mp closed
    exact (ih noMiddle closedInner : inner.alternative = none)
  | case3 kind text found next shorter opens closes =>
    obtain rfl := Option.some.inj closed
    rfl
  | case4 kind text found next shorter opens closes outer ih =>
    obtain ⟨inner, closedInner, rfl⟩ := Option.map_eq_some_iff.mp closed
    exact (ih noMiddle closedInner : inner.alternative = none)
  | case5 kind depth text found next shorter opens closes divides ih =>
    rw [noMiddle] at divides
    cases divides.2
  | case6 kind depth text found next shorter opens closes divides ih =>
    obtain ⟨inner, closedInner, rfl⟩ := Option.map_eq_some_iff.mp closed
    exact (ih noMiddle closedInner : inner.alternative = none)

/-! ## Text that passes -/

/-- The search goes over a text and is at the same depth behind it. -/
def BlockKind.Passes (kind : BlockKind) (depth : Nat) (text : List Char) : Prop :=
  ∀ rest, closeBlock kind depth (text ++ rest) = (closeBlock kind depth rest).map (.prepend text)

theorem BlockKind.passes_nil (kind : BlockKind) (depth : Nat) : kind.Passes depth [] := by
  intro rest
  have same : Block.prepend [] = id := rfl
  simp [same]

/-- Passing texts one after the other pass. -/
theorem BlockKind.Passes.append {kind : BlockKind} {depth : Nat} {left right : List Char}
    (first : kind.Passes depth left) (second : kind.Passes depth right) :
    kind.Passes depth (left ++ right) := by
  intro rest
  rw [List.append_assoc, first, second, Option.map_map]
  congr 1
  funext block
  exact (Block.prepend_append left right block).symm

/-- The search goes over text without an opening mark, unless the mark stands across its end. -/
theorem closeBlock_append_of_not_occursIn (kind : BlockKind) (depth : Nat) {text rest : List Char}
    (free : ¬ openTag.OccursIn text) (seam : ¬ openTag.Straddles text rest) :
    closeBlock kind depth (text ++ rest) =
      (closeBlock kind depth rest).map (.prepend text) := by
  have next := nextTag_append_of_not_occursIn free seam
  cases following : nextTag rest with
  | none =>
    rw [following] at next
    rw [closeBlock_of_no_tag next, closeBlock_of_no_tag following, Option.map_none]
  | some found =>
    rw [following] at next
    rw [closeBlock_of_nextTag next, closeBlock_of_nextTag following]
    have passed (result : Option Block) :
        result.map (Block.prepend (text ++ found.passed)) =
          (result.map (Block.prepend found.passed)).map (Block.prepend text) := by
      cases result <;> simp [Block.prepend_append]
    simp only [FoundTag.tag_prepend, FoundTag.passed_prepend, passed]
    split
    · rfl
    split
    · cases depth with
      | zero => rfl
      | succ outer => rfl
    split
    · simp only [Option.map_map]
      rfl
    · rfl

/-- Text without an opening mark passes, unless it ends with the start of one. -/
theorem BlockKind.passes_of_not_occursIn (kind : BlockKind) (depth : Nat) {text : List Char}
    (free : ¬ openTag.OccursIn text) (ends : text.getLast? ≠ some openTag.first) :
    kind.Passes depth text := by
  intro rest
  exact closeBlock_append_of_not_occursIn kind depth free fun straddles => ends straddles.1

section Tags

variable {kind : BlockKind} {inner : List Char} (free : ¬ closeTag.OccursIn inner)
include free

/-- What the search does at a tag that the text starts with. -/
theorem closeBlock_tagText (depth : Nat) (rest : List Char) :
    closeBlock kind depth (tagText inner ++ rest) =
      if (Tag.ofInner inner).keyword = kind.opener then
        (closeBlock kind (depth + 1) rest).map (.prepend (tagText inner))
      else if (Tag.ofInner inner).keyword = kind.closer then
        match depth with
        | 0 => some ⟨[], none, rest⟩
        | outer + 1 => (closeBlock kind outer rest).map (.prepend (tagText inner))
      else if depth = 0 ∧ some (Tag.ofInner inner).keyword = kind.middle then
        (closeBlock kind.undivided depth rest).map fun block => ⟨[], some block.body, block.rest⟩
      else (closeBlock kind depth rest).map (.prepend (tagText inner)) :=
  closeBlock_of_nextTag (nextTag_tagText rest free)

/-- An opening tag leads one level deeper. -/
theorem closeBlock_opening (opens : (Tag.ofInner inner).keyword = kind.opener) (depth : Nat)
    (rest : List Char) :
    closeBlock kind depth (tagText inner ++ rest) =
      (closeBlock kind (depth + 1) rest).map (.prepend (tagText inner)) := by
  rw [closeBlock_tagText free, if_pos opens]

/-- A closing tag below the surface leads one level up. -/
theorem closeBlock_inner_closing (distinct : kind.closer ≠ kind.opener)
    (closes : (Tag.ofInner inner).keyword = kind.closer) (outer : Nat) (rest : List Char) :
    closeBlock kind (outer + 1) (tagText inner ++ rest) =
      (closeBlock kind outer rest).map (.prepend (tagText inner)) := by
  have other : (Tag.ofInner inner).keyword ≠ kind.opener := closes ▸ distinct
  rw [closeBlock_tagText free, if_neg other, if_pos closes]

/-- A closing tag on the surface ends the block. -/
theorem closeBlock_closing (distinct : kind.closer ≠ kind.opener)
    (closes : (Tag.ofInner inner).keyword = kind.closer) (rest : List Char) :
    closeBlock kind 0 (tagText inner ++ rest) = some ⟨[], none, rest⟩ := by
  have other : (Tag.ofInner inner).keyword ≠ kind.opener := closes ▸ distinct
  rw [closeBlock_tagText free, if_neg other, if_pos closes]

/-- A middle tag on the surface divides the block. -/
theorem closeBlock_dividing (notOpener : (Tag.ofInner inner).keyword ≠ kind.opener)
    (notCloser : (Tag.ofInner inner).keyword ≠ kind.closer)
    (divides : some (Tag.ofInner inner).keyword = kind.middle) (rest : List Char) :
    closeBlock kind 0 (tagText inner ++ rest) =
      (closeBlock kind.undivided 0 rest).map fun block => ⟨[], some block.body, block.rest⟩ := by
  rw [closeBlock_tagText free, if_neg notOpener, if_neg notCloser, if_pos ⟨rfl, divides⟩]

/-- A tag that neither opens, nor closes, nor divides passes. -/
theorem passes_tagText (notOpener : (Tag.ofInner inner).keyword ≠ kind.opener)
    (notCloser : (Tag.ofInner inner).keyword ≠ kind.closer) {depth : Nat}
    (undivided : depth = 0 → some (Tag.ofInner inner).keyword ≠ kind.middle) :
    kind.Passes depth (tagText inner) := by
  intro rest
  have within : ¬ (depth = 0 ∧ some (Tag.ofInner inner).keyword = kind.middle) :=
    fun ⟨surface, divides⟩ => undivided surface divides
  rw [closeBlock_tagText free, if_neg notOpener, if_neg notCloser, if_neg within]

end Tags

/-- A block around text that passes one level deeper passes as a whole. -/
theorem passes_enclosed {kind : BlockKind} {depth : Nat} {opening body closing : List Char}
    (freeOpening : ¬ closeTag.OccursIn opening) (freeClosing : ¬ closeTag.OccursIn closing)
    (distinct : kind.closer ≠ kind.opener)
    (opens : (Tag.ofInner opening).keyword = kind.opener)
    (closes : (Tag.ofInner closing).keyword = kind.closer)
    (inside : kind.Passes (depth + 1) body) :
    kind.Passes depth (tagText opening ++ body ++ tagText closing) := by
  intro rest
  rw [List.append_assoc, List.append_assoc, closeBlock_opening freeOpening opens, inside,
    closeBlock_inner_closing freeClosing distinct closes, Option.map_map, Option.map_map]
  congr 1
  funext block
  simp only [Function.comp_apply, ← Block.prepend_append, List.append_assoc]

end Stencil.Template
