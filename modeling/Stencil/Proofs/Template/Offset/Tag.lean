import Stencil.Proofs.Template.Fault
import Stencil.Proofs.Text.Offset

/-!
# Tags by offsets

The tags of a text, found without taking the text apart: everything is an offset
into the whole text, and a piece of it is cut out only to be looked at.  Each cut
is checked, so that there is no answer where the text cannot be cut.

It always can.  In a range of the text the search gives the places of the tag that
`nextTag` finds in the piece that stands there (`nextTagAt_of_between`).
-/

set_option autoImplicit false

namespace Stencil.Template

open Text (Between IsSlice cutAt findMark slice?)
open String (utf8Len utf8Len_append)

/-! ## Words and tags -/

/-- The first word between two offsets of a text, and the offset behind it. -/
def firstWord (text : List Char) (start stop : Nat) : Option (List Char × Nat) := do
  let piece ← slice? text start stop
  let rest := Text.trimStart piece
  let skipped := utf8Len piece - utf8Len rest
  let width := utf8Len (rest.takeWhile fun c => !Text.isBlank c)
  let word ← slice? rest 0 width
  return (word, start + skipped + width)

/-- A tag and its places in a text.  The header stands between the last two of them. -/
structure TagAt where
  /-- The offset of the mark that opens the tag. -/
  start : Nat
  keyword : Keyword
  /-- The offset behind the keyword. -/
  keywordEnd : Nat
  /-- The offset of the mark that closes the tag. -/
  close : Nat
  deriving DecidableEq, Repr

namespace TagAt

/-- The offset behind a tag. -/
def stop (tag : TagAt) : Nat :=
  tag.close + utf8Len closeTag.text

/-- The tag whose opening mark stands at an offset, if it is closed before another offset. -/
def read (text : List Char) (start limit : Nat) : Option (Option TagAt) := do
  match ← findMark text closeTag (start + utf8Len openTag.text) limit with
  | none => return none
  | some close =>
    let (word, keywordEnd) ← firstWord text (start + utf8Len openTag.text) close
    return some ⟨start, .ofWord (.ofList word), keywordEnd, close⟩

end TagAt

/-- The first tag between two offsets of a text. -/
def nextTagAt (text : List Char) (cursor limit : Nat) : Option (Option TagAt) := do
  match ← findMark text openTag cursor limit with
  | none => return none
  | some start => TagAt.read text start limit

/-! ## The places of a tag -/

/-- The places of the tag that starts at an offset and has some text between its marks. -/
def TagAt.ofInner (start : Nat) (inner : List Char) : TagAt where
  start := start
  keyword := (Tag.ofInner inner).keyword
  keywordEnd :=
    start + utf8Len openTag.text + (utf8Len inner - utf8Len (Tag.ofInner inner).header)
  close := start + utf8Len openTag.text + utf8Len inner

/-- The places of a tag found in the piece of a text that starts at an offset. -/
def FoundTag.place (found : FoundTag) (cursor : Nat) : TagAt :=
  .ofInner (cursor + utf8Len found.before) found.inner

theorem FoundTag.keyword_place (found : FoundTag) (cursor : Nat) :
    (found.place cursor).keyword = found.tag.keyword := rfl

variable {text piece : List Char} {start cursor limit : Nat}

theorem firstWord_of_between {inner : List Char} {stop : Nat}
    (here : Between text start stop inner) :
    firstWord text start stop =
      some ((Text.trimStart inner).takeWhile fun c => !Text.isBlank c,
        start + (utf8Len inner - utf8Len (Tag.ofInner inner).header)) := by
  have parts : ((Text.trimStart inner).takeWhile fun c => !Text.isBlank c) ++
      (Tag.ofInner inner).header = Text.trimStart inner := List.takeWhile_append_dropWhile
  have width := congrArg utf8Len parts
  have shorter : utf8Len (Text.trimStart inner) ≤ utf8Len inner :=
    String.utf8Len_le_of_suffix (List.dropWhile_suffix _)
  have word := (Between.whole (((Text.trimStart inner).takeWhile fun c => !Text.isBlank c) ++
    (Tag.ofInner inner).header)).left
  rw [parts, Nat.zero_add] at word
  rw [utf8Len_append] at width
  simp only [firstWord, here.slice?, word.slice?, Option.bind_eq_bind, Option.bind_some,
    Option.pure_def, Option.some.injEq, Prod.mk.injEq, true_and]
  omega

theorem TagAt.read_of_between {opened : List Char}
    (here : Between text (start + utf8Len openTag.text) limit opened) :
    TagAt.read text start limit =
      some ((cutAt closeTag opened).map fun cut => .ofInner start cut.1) := by
  rw [TagAt.read, here.findMark]
  cases cut : cutAt closeTag opened with
  | none => rfl
  | some found =>
    obtain ⟨inner, rest⟩ := found
    rw [Text.cutAt_append cut, List.append_assoc] at here
    simp only [Option.map_some, Option.bind_eq_bind, Option.bind_some,
      firstWord_of_between here.left]
    rfl

/-- **The search for a tag.**  In a range of a text the next tag is found at its places. -/
theorem nextTagAt_of_between (here : Between text cursor limit piece) :
    nextTagAt text cursor limit = some ((nextTag piece).map (·.place cursor)) := by
  rw [nextTagAt, here.findMark, nextTag]
  cases cut : cutAt openTag piece with
  | none => rfl
  | some found =>
    obtain ⟨before, opened⟩ := found
    rw [Text.cutAt_append cut] at here
    have inside := here.right
    rw [utf8Len_append, ← Nat.add_assoc] at inside
    simp only [Option.map_some, Option.bind_eq_bind, Option.bind_some,
      TagAt.read_of_between inside, Option.map_map]
    rfl

theorem nextTagAt_of_nextTag {found : FoundTag} (here : Between text cursor limit piece)
    (next : nextTag piece = some found) :
    nextTagAt text cursor limit = some (some (found.place cursor)) := by
  rw [nextTagAt_of_between here, next, Option.map_some]

/-- There is an answer only where the text can be cut. -/
theorem exists_between_of_nextTagAt {found : Option TagAt}
    (next : nextTagAt text cursor limit = some found) :
    ∃ piece, Between text cursor limit piece ∧ found = (nextTag piece).map (·.place cursor) := by
  cases sliced : slice? text cursor limit with
  | none => simp [nextTagAt, findMark, sliced] at next
  | some piece =>
    have here := Text.slice?_eq_some_iff.mp sliced
    rw [nextTagAt_of_between here, Option.some.injEq] at next
    exact ⟨piece, here, next.symm⟩

/-! ## Pieces around a tag -/

theorem Tag.read_of_cutAt {opened inner rest : List Char}
    (cut : cutAt closeTag opened = some (inner, rest)) :
    Tag.read opened = some (.ofInner inner, rest) := by
  rw [Tag.read, cut, Option.map_some]

/-- The header of a tag ends at the closing mark. -/
theorem TagAt.close_ofInner (start : Nat) (inner : List Char) :
    (ofInner start inner).close =
      (ofInner start inner).keywordEnd + utf8Len (Tag.ofInner inner).header := by
  have shorter := String.utf8Len_le_of_suffix (Tag.header_suffix_ofInner inner)
  simp only [ofInner]
  omega

theorem TagAt.start_lt_keywordEnd_ofInner (start : Nat) (inner : List Char) :
    start < (ofInner start inner).keywordEnd :=
  Nat.lt_add_right _ (Nat.lt_add_of_pos_right (by decide))

theorem TagAt.start_lt_stop_ofInner (start : Nat) (inner : List Char) :
    start < (ofInner start inner).stop :=
  Nat.lt_add_right _ (Nat.lt_add_right _ (Nat.lt_add_of_pos_right (by decide)))

section Pieces

variable {inner rest : List Char}
  (here : Between text start limit (openTag.text ++ inner ++ closeTag.text ++ rest))
include here

theorem TagAt.between_source :
    Between text start (TagAt.ofInner start inner).stop
      (openTag.text ++ inner ++ closeTag.text) := by
  have source := here.left
  simp only [utf8Len_append, ← Nat.add_assoc] at source
  exact source

theorem TagAt.between_rest : Between text (TagAt.ofInner start inner).stop limit rest := by
  have behind := here.right
  simp only [utf8Len_append, ← Nat.add_assoc] at behind
  exact behind

/-- The header with what stands behind it. -/
theorem TagAt.between_resume :
    Between text (TagAt.ofInner start inner).keywordEnd limit
      ((Tag.ofInner inner).header ++ closeTag.text ++ rest) := by
  obtain ⟨word, parts⟩ := Tag.header_suffix_ofInner inner
  have width := congrArg utf8Len parts
  rw [utf8Len_append] at width
  have around : openTag.text ++ inner ++ closeTag.text ++ rest =
      openTag.text ++ word ++ ((Tag.ofInner inner).header ++ closeTag.text ++ rest) := by
    conv_lhs => rw [← parts]
    simp only [List.append_assoc]
  have behind := (around ▸ here).right
  have keyword : start + utf8Len (openTag.text ++ word) = (ofInner start inner).keywordEnd := by
    simp only [utf8Len_append, ofInner]
    omega
  exact keyword ▸ behind

theorem TagAt.between_header :
    Between text (TagAt.ofInner start inner).keywordEnd (TagAt.ofInner start inner).close
      (Tag.ofInner inner).header := by
  rw [close_ofInner]
  exact (between_resume here).left.left

end Pieces

section Found

variable {found : FoundTag} (here : Between text cursor limit piece)
  (next : nextTag piece = some found)
include here next

theorem FoundTag.between_before : Between text cursor (found.place cursor).start found.before := by
  rw [nextTag_append next, List.append_assoc] at here
  exact here.left

theorem FoundTag.between_opened :
    Between text (found.place cursor).start limit
      (openTag.text ++ found.inner ++ closeTag.text ++ found.after) := by
  rw [nextTag_append next, List.append_assoc] at here
  exact here.right

theorem FoundTag.between_passed :
    Between text cursor (found.place cursor).stop found.passed :=
  (between_before here next).join (TagAt.between_source (between_opened here next))

theorem FoundTag.between_after : Between text (found.place cursor).stop limit found.after :=
  TagAt.between_rest (between_opened here next)

end Found

/-! ## The way that a search makes -/

/-- A tag stands in a range, and something is behind each of its marks. -/
structure TagAt.Advances (tag : TagAt) (text : List Char) (cursor limit : Nat) : Prop where
  before : IsSlice text cursor tag.start
  opened : tag.start < tag.keywordEnd
  header : IsSlice text tag.keywordEnd tag.close
  closed : tag.close < tag.stop
  after : IsSlice text tag.stop limit

theorem TagAt.Advances.start_lt_stop {tag : TagAt} (advances : tag.Advances text cursor limit) :
    tag.start < tag.stop :=
  advances.opened.trans (Nat.lt_of_le_of_lt advances.header.ordered advances.closed)

theorem TagAt.Advances.forward {tag : TagAt} (advances : tag.Advances text cursor limit) :
    cursor < tag.stop :=
  Nat.lt_of_le_of_lt advances.before.ordered advances.start_lt_stop

theorem TagAt.advances_of_nextTagAt {tag : TagAt}
    (next : nextTagAt text cursor limit = some (some tag)) : tag.Advances text cursor limit := by
  obtain ⟨piece, here, same⟩ := exists_between_of_nextTagAt next
  obtain ⟨found, next', rfl⟩ := Option.map_eq_some_iff.mp same.symm
  have opened := FoundTag.between_opened here next'
  have mark : 0 < utf8Len openTag.text ∧ 0 < utf8Len closeTag.text := by decide
  exact {
    before := (FoundTag.between_before here next').isSlice
    opened := Nat.lt_add_right _ (Nat.lt_add_of_pos_right mark.1)
    header := (TagAt.between_header opened).isSlice
    closed := Nat.lt_add_of_pos_right mark.2
    after := (TagAt.between_rest opened).isSlice
  }

/-- Where a text can be cut the search has an answer. -/
theorem exists_nextTagAt (range : IsSlice text cursor limit) :
    ∃ found, nextTagAt text cursor limit = some found := by
  obtain ⟨piece, here⟩ := Text.isSlice_iff_exists_between.mp range
  exact ⟨_, nextTagAt_of_between here⟩

end Stencil.Template
