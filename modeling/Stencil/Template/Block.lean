import Stencil.Template.Tag

/-!
# Blocks

The extent of a block is found by counting the tags of one kind.  Every opening
tag met on the way has to be closed first; the closing tag that is left over
closes the block.  The first tag with the middle keyword that belongs to the block
itself divides it into two parts.  A tag that is never closed ends the search.
-/

set_option autoImplicit false

namespace Stencil.Template

/-- The keywords that delimit a kind of block. -/
structure BlockKind where
  opener : Keyword
  closer : Keyword
  middle : Option Keyword
  deriving DecidableEq, Repr

/-- The inside of a block, and what stands after it. -/
structure Block where
  /-- The text up to the middle tag, or up to the closing tag. -/
  body : List Char
  /-- The text from the middle tag on, if there is one. -/
  alternative : Option (List Char)
  /-- The text after the closing tag. -/
  rest : List Char
  deriving DecidableEq, Repr

/-- The block with some text put before its body. -/
def Block.prepend (skipped : List Char) (block : Block) : Block :=
  { block with body := skipped ++ block.body }

/-- The block that a text is the inside of, when so many blocks of its kind have been opened in it
and not closed. -/
def closeBlock (kind : BlockKind) (depth : Nat) (text : List Char) : Option Block :=
  match next : nextTag text with
  | none => none
  | some found =>
    have : found.after.length < text.length := by
      have lengths := length_of_nextTag next
      have marks := found.length_source
      omega
    if found.tag.keyword = kind.opener then
      (closeBlock kind (depth + 1) found.after).map (.prepend found.passed)
    else if found.tag.keyword = kind.closer then
      match depth with
      | 0 => some ⟨found.before, none, found.after⟩
      | outer + 1 => (closeBlock kind outer found.after).map (.prepend found.passed)
    else if depth = 0 ∧ some found.tag.keyword = kind.middle then
      (closeBlock { kind with middle := none } depth found.after).map fun block =>
        ⟨found.before, some block.body, block.rest⟩
    else
      (closeBlock kind depth found.after).map (.prepend found.passed)
termination_by text.length

/-- The parts of a block are shorter than the text it was found in. -/
theorem length_of_closeBlock {kind : BlockKind} {depth : Nat} {text : List Char} {block : Block}
    (closed : closeBlock kind depth text = some block) :
    block.body.length + (block.alternative.getD []).length + block.rest.length + 4
      ≤ text.length := by
  fun_induction closeBlock kind depth text generalizing block with
  | case1 => simp at closed
  | case2 kind depth text found next shorter opens ih =>
    obtain ⟨inner, closedInner, rfl⟩ := Option.map_eq_some_iff.mp closed
    have lengths := length_of_nextTag next
    have bound := ih closedInner
    simp only [Block.prepend, FoundTag.passed, List.length_append]
    omega
  | case3 kind text found next shorter opens closes =>
    obtain rfl := Option.some.inj closed
    have lengths := length_of_nextTag next
    have marks := found.length_source
    simp only [Option.getD_none, List.length_nil]
    omega
  | case4 kind text found next shorter opens closes outer ih =>
    obtain ⟨inner, closedInner, rfl⟩ := Option.map_eq_some_iff.mp closed
    have lengths := length_of_nextTag next
    have bound := ih closedInner
    simp only [Block.prepend, FoundTag.passed, List.length_append]
    omega
  | case5 kind depth text found next shorter opens closes divides ih =>
    obtain ⟨inner, closedInner, rfl⟩ := Option.map_eq_some_iff.mp closed
    have lengths := length_of_nextTag next
    have marks := found.length_source
    have bound := ih closedInner
    simp only [Option.getD_some]
    omega
  | case6 kind depth text found next shorter opens closes divides ih =>
    obtain ⟨inner, closedInner, rfl⟩ := Option.map_eq_some_iff.mp closed
    have lengths := length_of_nextTag next
    have bound := ih closedInner
    simp only [Block.prepend, FoundTag.passed, List.length_append]
    omega

end Stencil.Template
