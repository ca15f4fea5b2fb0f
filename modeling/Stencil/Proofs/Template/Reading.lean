import Stencil.Proofs.Template.Parse
import Stencil.Proofs.Template.Piece

/-!
# What is written from a tree is read as that tree

`Piece.nodes` is the tree of nodes that a piece stands for.  Reading is inverse to
writing: the text of well-formed pieces, with any text behind it, is read as their
nodes and then as what the text behind it is read as (`Piece.parse_printAll`).

The loops and conditions among the pieces are found by the search for the end of
a block, which never looks into variables and takes tags with an unknown keyword
whole, while reading does look behind the keyword of such a tag.  The two agree
because the written text passes the search (`Piece.passes_printAll`).
-/

set_option autoImplicit false

namespace Stencil.Template

open Text (Mark cutAt cutAt_mark not_occursIn_append)

/-! ## The tree of a piece -/

namespace Piece

mutual
/-- The nodes that a piece stands for. -/
def nodes : Piece → List Node
  | .plain text => text.text.map .text
  | .variable path => [.variable (.ofList (' ' :: path.text ++ [' ']))]
  | .directive tag =>
    .directive (.ofList tag.word) :: (tag.header.text ++ closeTag.text).map .text
  | .loop tag body => [.loop tag.header (nodesAll body)]
  | .when tag accepted => [.choice tag.condition (nodesAll accepted) []]
  | .choice tag accepted rejected => [.choice tag.condition (nodesAll accepted) (nodesAll rejected)]

/-- The nodes of pieces one after the other. -/
def nodesAll : List Piece → List Node
  | [] => []
  | piece :: pieces => nodes piece ++ nodesAll pieces
end

end Piece

/-! ## Blocks of written text -/

/-- A tag is read from behind its opening mark. -/
theorem Tag.read_inner {inner : List Char} (free : ¬ closeTag.OccursIn inner) (rest : List Char) :
    Tag.read (inner ++ closeTag.text ++ rest) = some (.ofInner inner, rest) := by
  have seam : ¬ closeTag.Straddles inner closeTag.text := by
    simp [Mark.Straddles, closeTag, Mark.text]
  rw [Tag.read, cutAt_mark rest free seam, Option.map_some]

/-- A block without a middle tag ends at the closing tag behind text that passes. -/
theorem closeBlock_body {kind : BlockKind} {body : List Char} {closer : Keyword}
    (meaningful : closer.IsMeaningful) (distinct : kind.closer ≠ kind.opener)
    (closes : closer = kind.closer) (passes : kind.Passes 0 body) (rest : List Char) :
    closeBlock kind 0 (body ++ (bareTag closer ++ rest)) = some ⟨body, none, rest⟩ := by
  have keyword := (Tag.keyword_bare meaningful).trans closes
  rw [passes, bareTag, closeBlock_closing (noEnd_bare meaningful) distinct keyword rest]
  simp [Block.prepend]

/-- A condition is divided at its middle tag and ends at its closing tag. -/
theorem closeBlock_branches {accepted rejected : List Char}
    (passesAccepted : conditionBlock.Passes 0 accepted)
    (passesRejected : conditionBlock.undivided.Passes 0 rejected) (rest : List Char) :
    closeBlock conditionBlock 0
        (accepted ++ (bareTag .otherwise ++ (rejected ++ (bareTag .endCondition ++ rest)))) =
      some ⟨accepted, some rejected, rest⟩ := by
  have keyword := Tag.keyword_bare Keyword.isMeaningful_otherwise
  have ended := closeBlock_body Keyword.isMeaningful_endCondition (by decide) rfl
    passesRejected rest
  have divided : closeBlock conditionBlock 0
      (bareTag .otherwise ++ (rejected ++ (bareTag .endCondition ++ rest))) =
        some ⟨[], some rejected, rest⟩ := by
    rw [bareTag,
      closeBlock_dividing (noEnd_bare Keyword.isMeaningful_otherwise) (by rw [keyword]; decide)
        (by rw [keyword]; decide) (by rw [keyword]; rfl), ended, Option.map_some]
  rw [passesAccepted, divided]
  simp [Block.prepend]

/-! ## Reading pieces -/

theorem PathText.parse_print (path : PathText) (rest : List Char) :
    parse (openVariable.text ++ (' ' :: path.text ++ [' ']) ++ closeVariable.text ++ rest) =
      .variable (.ofList (' ' :: path.text ++ [' '])) :: parse rest := by
  have noSpace : closeVariable.first ≠ ' ' ∧ closeVariable.second ≠ ' ' := by decide
  have free : ¬ closeVariable.OccursIn (' ' :: path.text ++ [' ']) :=
    not_occursIn_append_space noSpace (not_occursIn_space_cons noSpace.1 path.noEnd) (by decide)
  have seam : ¬ closeVariable.Straddles (' ' :: path.text ++ [' ']) closeVariable.text := by
    rintro ⟨last, -⟩
    rw [List.getLast?_concat] at last
    exact noSpace.1 (Option.some.inj last).symm
  have cut := cutAt_mark rest free seam
  simpa only [List.append_assoc] using parse_variable cut

theorem UnknownTag.parse_print (tag : UnknownTag) (rest : List Char) :
    parse (tagText tag.inner ++ rest) =
      .directive (.ofList tag.word) :: (tag.header.text ++ closeTag.text).map .text
        ++ parse rest := by
  have read := Tag.read_inner tag.noEnd_inner rest
  rw [tag.ofInner_inner] at read
  have behind (mark : Mark) (opening : mark.first = '\x7b') (free : ¬ mark.OccursIn tag.header.text)
      (absent : ¬ mark.OccursIn closeTag.text) :
      ¬ mark.OccursIn (tag.header.text ++ closeTag.text) := by
    refine not_occursIn_append free absent fun straddles => tag.header.ends ?_
    rw [straddles.1, opening]
  have ends : (tag.header.text ++ closeTag.text).getLast? ≠ some '\x7b' := by
    have mark : closeTag.text.getLast? = some '\x7d' := rfl
    rw [List.getLast?_append, mark]
    exact fun same => absurd (Option.some.inj same) (by decide)
  have plain := parse_append_of_plain (behind openVariable rfl tag.header.noVariable (by decide))
    (behind openTag rfl tag.header.noTag (by decide)) ends rest
  have whole := parse_directive read rfl
  rw [plain] at whole
  simpa only [tagText, List.append_assoc, List.cons_append] using whole

theorem LoopTag.parse_print (tag : LoopTag) {body : List Char} (passes : loopBlock.Passes 0 body)
    (rest : List Char) :
    parse (tagText tag.inner ++ body ++ bareTag .endLoop ++ rest) =
      .loop tag.header (parse body) :: parse rest := by
  have read := Tag.read_inner tag.noEnd_inner (body ++ (bareTag .endLoop ++ rest))
  rw [tag.ofInner_inner] at read
  have headed : LoopHeader.read (loopHeaderText tag.name tag.source) = .ok tag.header :=
    LoopHeader.read_headerText tag.isName tag.isPath
  have closed := closeBlock_body Keyword.isMeaningful_endLoop (by decide) rfl passes rest
  simpa only [tagText, List.append_assoc] using parse_loop read rfl headed closed

/-- A condition is read branch by branch, given how its block ends. -/
theorem ConditionTag.parse_print (tag : ConditionTag) {inside rest : List Char} {block : Block}
    (closed : closeBlock conditionBlock 0 inside = some block) (behind : block.rest = rest) :
    parse (tagText tag.inner ++ inside) =
      .choice tag.condition (parse block.body) (parse (block.alternative.getD []))
        :: parse rest := by
  subst behind
  have read := Tag.read_inner tag.noEnd_inner inside
  rw [tag.ofInner_inner] at read
  have headed : readCondition (conditionHeaderText tag.path tag.operator tag.literal) =
      .ok tag.condition := readCondition_headerText tag.operator tag.isPath tag.isLiteral
  simpa only [tagText, List.append_assoc] using parse_choice read rfl headed closed

namespace Piece

mutual
/-- Reading is inverse to writing. -/
theorem parse_print : ∀ (piece : Piece) (rest : List Char),
    parse (piece.print ++ rest) = piece.nodes ++ parse rest
  | .plain text, rest => by
      rw [print, nodes]
      exact parse_append_of_plain text.noVariable text.noTag text.ends rest
  | .variable path, rest => by
      rw [print, nodes]
      exact path.parse_print rest
  | .directive tag, rest => by
      rw [print, nodes]
      exact tag.parse_print rest
  | .loop tag body, rest => by
      have inner := parse_printAll body []
      rw [List.append_nil, parse_nil, List.append_nil] at inner
      rw [print, nodes, tag.parse_print (passes_printAll (.inl rfl) body 0), inner]
      rfl
  | .when tag accepted, rest => by
      have inner := parse_printAll accepted []
      rw [List.append_nil, parse_nil, List.append_nil] at inner
      have closed := closeBlock_body Keyword.isMeaningful_endCondition (by decide) rfl
        (passes_printAll (.inr (.inl rfl)) accepted 0) rest
      have whole := tag.parse_print closed rfl
      rw [inner, Option.getD_none, parse_nil] at whole
      simpa only [print, nodes, List.append_assoc, List.singleton_append] using whole
  | .choice tag accepted rejected, rest => by
      have first := parse_printAll accepted []
      have second := parse_printAll rejected []
      rw [List.append_nil, parse_nil, List.append_nil] at first second
      have closed := closeBlock_branches (passes_printAll (.inr (.inl rfl)) accepted 0)
        (passes_printAll (.inr (.inr rfl)) rejected 0) rest
      have whole := tag.parse_print closed rfl
      rw [first, Option.getD_some, second] at whole
      simpa only [print, nodes, List.append_assoc, List.singleton_append] using whole

/-- **Reading is inverse to writing.**  The text of well-formed pieces is read as their nodes,
whatever stands behind it. -/
theorem parse_printAll : ∀ (pieces : List Piece) (rest : List Char),
    parse (printAll pieces ++ rest) = nodesAll pieces ++ parse rest
  | [], rest => by
      rw [printAll, nodesAll]
      rfl
  | piece :: pieces, rest => by
      rw [printAll, nodesAll, List.append_assoc, parse_print piece, parse_printAll pieces rest,
        List.append_assoc]
end

end Piece

end Stencil.Template
