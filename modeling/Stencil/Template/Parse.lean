import Stencil.Template.Block
import Stencil.Template.Node

/-!
# Reading templates

The tree of a text.  A variable ends at the first mark that closes one.  A tag
that opens a loop or a condition takes its whole block with it, and the parts of
the block are read as texts of their own, so that nothing in them can reach past
their end.  A tag with any other keyword is read up to the end of that keyword
only; its header and its closing mark are text again.

Nothing is read after a flaw.  An unreadable header counts before a block that is
not closed.
-/

set_option autoImplicit false

namespace Stencil.Template

open Text (cutAt)

/-- The blocks of loops. -/
def loopBlock : BlockKind := ⟨.loop, .endLoop, none⟩

/-- The blocks of conditions. -/
def conditionBlock : BlockKind := ⟨.condition, .endCondition, some .otherwise⟩

/-- The tree of a text. -/
def parse : List Char → List Node
  | '\x7b' :: '\x7b' :: text =>
    match cut : cutAt closeVariable text with
    | none => [.fault .openVariable (openVariable.text ++ text)]
    | some (path, rest) =>
      have : rest.length < text.length := by
        have lengths := Text.length_of_cutAt cut
        omega
      .variable (.ofList path) :: parse rest
  | '\x7b' :: '%' :: text =>
    match read : Tag.read text with
    | none => [.fault .openTag (openTag.text ++ text)]
    | some (tag, rest) =>
      have lengths := Tag.length_of_read read
      match tag.keyword with
      | .loop =>
        match LoopHeader.read tag.header with
        | .error error => [.fault (.loopHeader tag.header error) (openTag.text ++ text)]
        | .ok header =>
          match closed : closeBlock loopBlock 0 rest with
          | none => [.fault .openLoop (openTag.text ++ text)]
          | some block =>
            have bounds := length_of_closeBlock closed
            .loop header (parse block.body) :: parse block.rest
      | .condition =>
        match readCondition tag.header with
        | .error error => [.fault (.conditionHeader tag.header error) (openTag.text ++ text)]
        | .ok condition =>
          match closed : closeBlock conditionBlock 0 rest with
          | none => [.fault .openCondition (openTag.text ++ text)]
          | some block =>
            have bounds := length_of_closeBlock closed
            .choice condition (parse block.body) (parse (block.alternative.getD []))
              :: parse block.rest
      | keyword => .directive keyword.word :: parse (tag.header ++ closeTag.text ++ rest)
  | character :: text => .text character :: parse text
  | [] => []
termination_by text => text.length
decreasing_by
  all_goals
    simp only [List.length_cons, List.length_append, closeTag, Text.Mark.text, List.length_nil]
    omega

end Stencil.Template
