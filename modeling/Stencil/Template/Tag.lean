import Stencil.Text.Blank
import Stencil.Text.Cut
import Stencil.Template.Keyword

/-!
# Tags

Two kinds of tokens open in a template: `{{` a variable and `{%` a tag.  A tag
ends at the first `%}` after it, whatever stands between.  Its first word is its
keyword and the text after that word, blanks included, its header.

`nextTag` finds the first tag of a text.  It looks at tags alone: a tag inside a
variable counts too.
-/

set_option autoImplicit false

namespace Stencil.Template

open Text (Mark cutAt)

/-- What a variable starts with. -/
def openVariable : Mark := ⟨'\x7b', '\x7b'⟩

/-- What a variable ends with. -/
def closeVariable : Mark := ⟨'\x7d', '\x7d'⟩

/-- What a tag starts with. -/
def openTag : Mark := ⟨'\x7b', '%'⟩

/-- What a tag ends with. -/
def closeTag : Mark := ⟨'%', '\x7d'⟩

/-- The inside of a tag. -/
structure Tag where
  keyword : Keyword
  header : List Char
  deriving DecidableEq, Repr

namespace Tag

/-- The tag with some text between its marks. -/
def ofInner (inner : List Char) : Tag where
  keyword := .ofWord (.ofList ((Text.trimStart inner).takeWhile fun c => !Text.isBlank c))
  header := (Text.trimStart inner).dropWhile fun c => !Text.isBlank c

/-- The header is no longer than the text between the marks. -/
theorem length_header_ofInner (inner : List Char) :
    (ofInner inner).header.length ≤ inner.length :=
  Nat.le_trans (List.dropWhile_sublist _).length_le (List.dropWhile_sublist _).length_le

end Tag

/-- The tag whose inside a text starts with, and the text after it. -/
def Tag.read (text : List Char) : Option (Tag × List Char) :=
  (cutAt closeTag text).map fun (inner, rest) => (.ofInner inner, rest)

/-- What is read as a tag leaves a shorter text. -/
theorem Tag.length_of_read {text rest : List Char} {tag : Tag}
    (read : Tag.read text = some (tag, rest)) :
    tag.header.length + rest.length + 2 ≤ text.length := by
  simp only [Tag.read, Option.map_eq_some_iff, Prod.mk.injEq] at read
  obtain ⟨⟨inner, remainder⟩, cut, rfl, rfl⟩ := read
  have lengths := Text.length_of_cutAt cut
  have header := Tag.length_header_ofInner inner
  simp only
  omega

/-- A tag found in a text. -/
structure FoundTag where
  /-- The text before the tag. -/
  before : List Char
  /-- The text between the marks of the tag. -/
  inner : List Char
  /-- The text after the tag. -/
  after : List Char
  deriving DecidableEq, Repr

namespace FoundTag

/-- The tag that was found. -/
def tag (found : FoundTag) : Tag :=
  .ofInner found.inner

/-- The text of the tag, marks included. -/
def source (found : FoundTag) : List Char :=
  openTag.text ++ found.inner ++ closeTag.text

/-- The text up to the end of the tag. -/
def passed (found : FoundTag) : List Char :=
  found.before ++ found.source

end FoundTag

/-- The first tag of a text, if the text has one and it is closed. -/
def nextTag (text : List Char) : Option FoundTag :=
  match cutAt openTag text with
  | none => none
  | some (before, opened) =>
    (cutAt closeTag opened).map fun (inner, after) => ⟨before, inner, after⟩

/-- A text is what stands before its first tag, the tag, and what stands after it. -/
theorem nextTag_append {text : List Char} {found : FoundTag} (next : nextTag text = some found) :
    text = found.before ++ found.source ++ found.after := by
  unfold nextTag at next
  split at next
  · exact absurd next (by simp)
  · next before opened cut =>
    simp only [Option.map_eq_some_iff] at next
    obtain ⟨⟨inner, after⟩, closed, rfl⟩ := next
    simp [Text.cutAt_append cut, Text.cutAt_append closed, FoundTag.source]

/-- A text is as long as what stands before its first tag, the tag, and what stands after it. -/
theorem length_of_nextTag {text : List Char} {found : FoundTag} (next : nextTag text = some found) :
    found.before.length + found.source.length + found.after.length = text.length := by
  have whole := congrArg List.length (nextTag_append next)
  simp only [List.length_append] at whole
  omega

/-- A tag is at least as long as its marks. -/
theorem FoundTag.length_source (found : FoundTag) : 4 ≤ found.source.length := by
  simp only [source, Text.Mark.text, List.length_append, List.length_cons, List.length_nil]
  omega

end Stencil.Template
