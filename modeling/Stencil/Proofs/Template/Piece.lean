import Stencil.Proofs.Template.Block
import Stencil.Proofs.Template.Header
import Stencil.Template.Parse

/-!
# Well-formed templates as they are written

A well-formed template is a list of pieces, and a piece is a tree: plain text, a
variable, a tag with a keyword without a meaning, a loop around pieces, or a
condition around one or two lists of pieces.  The leaves carry what makes them
well formed, so that every tree can be written down (`Piece.printAll`) and no
mark of its text can be mistaken for another.

The second part of the module says what the search for the end of a block sees of
a written tree: nothing.  Whatever is written from a tree passes
(`Piece.passes_printAll`), so a block ends at its own closing tag and is divided at
its own middle tag.
-/

set_option autoImplicit false

namespace Stencil

/-- A keyword that is one of the five words with a meaning. -/
def Keyword.IsMeaningful (keyword : Keyword) : Prop :=
  ∀ word, keyword ≠ .unknown word

theorem Keyword.isMeaningful_loop : loop.IsMeaningful := fun _ same => nomatch same

theorem Keyword.isMeaningful_endLoop : endLoop.IsMeaningful := fun _ same => nomatch same

theorem Keyword.isMeaningful_condition : condition.IsMeaningful := fun _ same => nomatch same

theorem Keyword.isMeaningful_otherwise : otherwise.IsMeaningful := fun _ same => nomatch same

theorem Keyword.isMeaningful_endCondition : endCondition.IsMeaningful := fun _ same => nomatch same

theorem Keyword.ofWord_word {keyword : Keyword} (meaningful : keyword.IsMeaningful) :
    ofWord keyword.word = keyword := by
  cases keyword with
  | unknown word => exact absurd rfl (meaningful word)
  | loop | endLoop | condition | otherwise | endCondition => decide

namespace Template

open Text (Mark cutAt cutAt_mark isBlank not_occursIn_append)

/-! ## Leaves -/

/-- Text in which nothing opens, and behind which nothing is half open. -/
structure PlainText where
  text : List Char
  noVariable : ¬ openVariable.OccursIn text
  noTag : ¬ openTag.OccursIn text
  ends : text.getLast? ≠ some '\x7b'

/-- What can stand in a variable. -/
structure PathText where
  text : List Char
  noEnd : ¬ closeVariable.OccursIn text
  noTag : ¬ openTag.OccursIn text

/-- The inside of a tag with a keyword without a meaning. -/
structure UnknownTag where
  word : List Char
  /-- What stands behind the keyword. -/
  header : PlainText
  nonempty : word ≠ []
  solid : ∀ character ∈ word, isBlank character = false
  meaningless : String.ofList word ∉ ["foreach", "endfor", "if", "else", "endif"]
  separated : ∀ character, header.text.head? = some character → isBlank character = true
  noEnd : ¬ closeTag.OccursIn (word ++ header.text)

/-- The inside of the tag that opens a loop. -/
structure LoopTag where
  name : List Char
  source : List Char
  isName : IsName name
  isPath : IsPath source
  noEndInName : ¬ closeTag.OccursIn name
  noEndInSource : ¬ closeTag.OccursIn source

/-- The inside of the tag that opens a condition. -/
structure ConditionTag where
  path : List Char
  operator : Operator
  /-- The literal as it is written. -/
  literal : List Char
  /-- The text that the literal stands for. -/
  value : List Char
  isPath : IsPath path
  isLiteral : IsLiteral literal value
  noEndInPath : ¬ closeTag.OccursIn path
  noEndInLiteral : ¬ closeTag.OccursIn literal

/-- The header that a loop tag is read as. -/
def LoopTag.header (tag : LoopTag) : LoopHeader :=
  ⟨.ofList tag.name, .ofList tag.source⟩

/-- The condition that a condition tag is read as. -/
def ConditionTag.condition (tag : ConditionTag) : Condition :=
  ⟨.ofList tag.path, tag.operator, .ofList tag.value⟩

/-! ## Pieces and their text -/

/-- A part of a well-formed template. -/
inductive Piece
  | plain (text : PlainText)
  | variable (path : PathText)
  | directive (tag : UnknownTag)
  | loop (tag : LoopTag) (body : List Piece)
  /-- A condition with one branch. -/
  | when (tag : ConditionTag) (accepted : List Piece)
  /-- A condition with two branches. -/
  | choice (tag : ConditionTag) (accepted rejected : List Piece)

/-- The inside of a tag with a keyword and a header. -/
def keywordInner (keyword : Keyword) (header : List Char) : List Char :=
  ' ' :: keyword.word.toList ++ header

def UnknownTag.inner (tag : UnknownTag) : List Char :=
  ' ' :: tag.word ++ tag.header.text

def LoopTag.inner (tag : LoopTag) : List Char :=
  keywordInner .loop (loopHeaderText tag.name tag.source)

def ConditionTag.inner (tag : ConditionTag) : List Char :=
  keywordInner .condition (conditionHeaderText tag.path tag.operator tag.literal)

/-- A tag of a keyword alone, a space on either side. -/
def bareTag (keyword : Keyword) : List Char :=
  tagText (keywordInner keyword [' '])

namespace Piece

mutual
/-- The text of a piece. -/
def print : Piece → List Char
  | .plain text => text.text
  | .variable path => openVariable.text ++ (' ' :: path.text ++ [' ']) ++ closeVariable.text
  | .directive tag => tagText tag.inner
  | .loop tag body => tagText tag.inner ++ printAll body ++ bareTag .endLoop
  | .when tag accepted => tagText tag.inner ++ printAll accepted ++ bareTag .endCondition
  | .choice tag accepted rejected =>
    tagText tag.inner ++ (printAll accepted ++ (bareTag .otherwise ++ printAll rejected))
      ++ bareTag .endCondition

/-- The text of pieces one after the other. -/
def printAll : List Piece → List Char
  | [] => []
  | piece :: pieces => print piece ++ printAll pieces
end

end Piece

/-! ## Reading the tags -/

theorem Tag.ofInner_word {word header : List Char} (nonempty : word ≠ [])
    (solid : ∀ character ∈ word, isBlank character = false)
    (separated : ∀ character, header.head? = some character → isBlank character = true) :
    Tag.ofInner (' ' :: word ++ header) = ⟨.ofWord (.ofList word), header⟩ := by
  have trimmed : Text.trimStart (' ' :: word ++ header) = word ++ header := by
    obtain ⟨first, others, rfl⟩ := List.exists_cons_of_ne_nil nonempty
    rw [Text.trimStart, List.cons_append, List.dropWhile_cons_of_pos (by decide)]
    exact Text.trimStart_cons_of_not_blank (solid first (List.mem_cons_self ..))
  have inside : ∀ character ∈ word, (!isBlank character) = true := by
    simpa using solid
  have stops : header.takeWhile (!isBlank ·) = [] ∧ header.dropWhile (!isBlank ·) = header := by
    cases header with
    | nil => exact ⟨rfl, rfl⟩
    | cons first rest => simp [separated first rfl]
  simp only [Tag.ofInner, trimmed, List.takeWhile_append_of_pos inside,
    List.dropWhile_append_of_pos inside, stops.1, stops.2, List.append_nil]

theorem Tag.ofInner_keywordInner {keyword : Keyword} (meaningful : keyword.IsMeaningful)
    {header : List Char}
    (separated : ∀ character, header.head? = some character → isBlank character = true) :
    Tag.ofInner (keywordInner keyword header) = ⟨keyword, header⟩ := by
  have word : keyword.word.toList ≠ [] ∧ keyword.word.toList.all (!isBlank ·) = true := by
    cases keyword with
    | unknown word => exact absurd rfl (meaningful word)
    | loop | endLoop | condition | otherwise | endCondition => decide
  have solid : ∀ character ∈ keyword.word.toList, isBlank character = false := by
    simpa using word.2
  rw [keywordInner, Tag.ofInner_word word.1 solid separated, String.ofList_toList,
    Keyword.ofWord_word meaningful]

theorem UnknownTag.ofInner_inner (tag : UnknownTag) :
    Tag.ofInner tag.inner = ⟨.unknown (.ofList tag.word), tag.header.text⟩ := by
  have unknown : Keyword.ofWord (.ofList tag.word) = .unknown (.ofList tag.word) := by
    have others := tag.meaningless
    simp only [List.mem_cons, List.not_mem_nil, or_false, not_or] at others
    obtain ⟨notLoop, notEndLoop, notCondition, notOtherwise, notEndCondition⟩ := others
    simp [Keyword.ofWord, Keyword.word, notLoop, notEndLoop, notCondition, notOtherwise,
      notEndCondition]
  rw [inner, Tag.ofInner_word tag.nonempty tag.solid tag.separated, unknown]

theorem LoopTag.ofInner_inner (tag : LoopTag) :
    Tag.ofInner tag.inner = ⟨.loop, loopHeaderText tag.name tag.source⟩ :=
  Tag.ofInner_keywordInner Keyword.isMeaningful_loop (by rintro character ⟨⟩; decide)

theorem ConditionTag.ofInner_inner (tag : ConditionTag) :
    Tag.ofInner tag.inner =
      ⟨.condition, conditionHeaderText tag.path tag.operator tag.literal⟩ :=
  Tag.ofInner_keywordInner Keyword.isMeaningful_condition (by rintro character ⟨⟩; decide)

theorem Tag.keyword_bare {keyword : Keyword} (meaningful : keyword.IsMeaningful) :
    (Tag.ofInner (keywordInner keyword [' '])).keyword = keyword := by
  rw [Tag.ofInner_keywordInner meaningful (by rintro character ⟨⟩; decide)]

/-! ## No mark where none is meant -/

theorem not_occursIn_space_cons {mark : Mark} {text : List Char} (noSpace : mark.first ≠ ' ')
    (free : ¬ mark.OccursIn text) : ¬ mark.OccursIn (' ' :: text) := by
  refine not_occursIn_append (mark.not_occursIn_singleton ' ') free ?_
  rintro ⟨last, -⟩
  exact noSpace (Option.some.inj last).symm

/-- A mark that does not end in a space does not stand across the start of a text that starts with
one. -/
theorem not_occursIn_append_space {mark : Mark} {left right : List Char}
    (noSpace : mark.first ≠ ' ' ∧ mark.second ≠ ' ') (freeLeft : ¬ mark.OccursIn left)
    (freeRight : ¬ mark.OccursIn right) : ¬ mark.OccursIn (left ++ ' ' :: right) := by
  refine not_occursIn_append freeLeft (not_occursIn_space_cons noSpace.1 freeRight) ?_
  rintro ⟨-, head⟩
  exact noSpace.2 (Option.some.inj head).symm

theorem closeTag_no_space : closeTag.first ≠ ' ' ∧ closeTag.second ≠ ' ' := by
  decide

theorem PathText.noTag_print (path : PathText) :
    ¬ openTag.OccursIn
      (openVariable.text ++ (' ' :: path.text ++ [' ']) ++ closeVariable.text) := by
  have noSpace : openTag.first ≠ ' ' ∧ openTag.second ≠ ' ' := by decide
  have behind : ¬ openTag.OccursIn (path.text ++ ' ' :: closeVariable.text) :=
    not_occursIn_append_space noSpace path.noTag (by decide)
  have whole := not_occursIn_append_space noSpace
    (by decide : ¬ openTag.OccursIn openVariable.text) behind
  simpa using whole

theorem PathText.ends_print (path : PathText) :
    (openVariable.text ++ (' ' :: path.text ++ [' ']) ++ closeVariable.text).getLast? ≠
      some openTag.first := by
  have mark : closeVariable.text.getLast? = some '\x7d' := rfl
  rw [List.getLast?_append, mark]
  exact fun same => absurd (Option.some.inj same) (by decide)

theorem UnknownTag.noEnd_inner (tag : UnknownTag) : ¬ closeTag.OccursIn tag.inner :=
  not_occursIn_space_cons closeTag_no_space.1 tag.noEnd

theorem LoopTag.noEnd_inner (tag : LoopTag) : ¬ closeTag.OccursIn tag.inner := by
  have behind : ¬ closeTag.OccursIn (tag.source ++ [' ']) :=
    not_occursIn_append_space closeTag_no_space tag.noEndInSource (by decide)
  have sourced : ¬ closeTag.OccursIn ('i' :: 'n' :: ' ' :: (tag.source ++ [' '])) :=
    not_occursIn_append_space closeTag_no_space (by decide : ¬ closeTag.OccursIn ['i', 'n']) behind
  have named : ¬ closeTag.OccursIn
      (tag.name ++ ' ' :: 'i' :: 'n' :: ' ' :: (tag.source ++ [' '])) :=
    not_occursIn_append_space closeTag_no_space tag.noEndInName sourced
  have whole := not_occursIn_append_space closeTag_no_space
    (by decide : ¬ closeTag.OccursIn (' ' :: Keyword.loop.word.toList)) named
  simpa [inner, keywordInner, loopHeaderText] using whole

theorem ConditionTag.noEnd_inner (tag : ConditionTag) : ¬ closeTag.OccursIn tag.inner := by
  have behind : ¬ closeTag.OccursIn (tag.literal ++ [' ']) :=
    not_occursIn_append_space closeTag_no_space tag.noEndInLiteral (by decide)
  have compared : ¬ closeTag.OccursIn
      (tag.operator.text.toList ++ ' ' :: (tag.literal ++ [' '])) := by
    refine not_occursIn_append_space closeTag_no_space ?_ behind
    cases tag.operator <;> decide
  have pathed : ¬ closeTag.OccursIn
      (tag.path ++ ' ' :: (tag.operator.text.toList ++ ' ' :: (tag.literal ++ [' ']))) :=
    not_occursIn_append_space closeTag_no_space tag.noEndInPath compared
  have whole := not_occursIn_append_space closeTag_no_space
    (by decide : ¬ closeTag.OccursIn (' ' :: Keyword.condition.word.toList)) pathed
  simpa [inner, keywordInner, conditionHeaderText] using whole

theorem noEnd_bare {keyword : Keyword} (meaningful : keyword.IsMeaningful) :
    ¬ closeTag.OccursIn (keywordInner keyword [' ']) := by
  cases keyword with
  | unknown word => exact absurd rfl (meaningful word)
  | loop | endLoop | condition | otherwise | endCondition => decide

/-! ## What is written passes -/

/-- The kinds of blocks that are searched for. -/
def BlockKind.IsUsual (kind : BlockKind) : Prop :=
  kind = loopBlock ∨ kind = conditionBlock ∨ kind = conditionBlock.undivided

/-- Whether a keyword means nothing to the search for the end of a block of some kind. -/
def BlockKind.Ignores (kind : BlockKind) (keyword : Keyword) : Prop :=
  keyword ≠ kind.opener ∧ keyword ≠ kind.closer ∧ some keyword ≠ kind.middle

instance (kind : BlockKind) (keyword : Keyword) : Decidable (kind.Ignores keyword) :=
  inferInstanceAs (Decidable (_ ∧ _ ∧ _))

theorem passes_of_ignores {kind : BlockKind} {inner : List Char} {keyword : Keyword}
    (free : ¬ closeTag.OccursIn inner) (read : (Tag.ofInner inner).keyword = keyword)
    (ignores : kind.Ignores keyword) (depth : Nat) : kind.Passes depth (tagText inner) := by
  subst read
  exact passes_tagText free ignores.1 ignores.2.1 fun _ => ignores.2.2

section Passing

variable {kind : BlockKind} (usual : kind.IsUsual) {depth : Nat}
include usual

theorem UnknownTag.passes (tag : UnknownTag) : kind.Passes depth (tagText tag.inner) := by
  refine passes_of_ignores tag.noEnd_inner (congrArg Tag.keyword tag.ofInner_inner) ?_ depth
  rcases usual with rfl | rfl | rfl
  · exact ⟨nofun, nofun, nofun⟩
  · refine ⟨nofun, nofun, fun same => ?_⟩
    cases Option.some.inj same
  · exact ⟨nofun, nofun, nofun⟩

/-- A loop around text that passes at every depth passes. -/
theorem LoopTag.passes (tag : LoopTag) {body : List Char}
    (inside : ∀ depth, kind.Passes depth body) :
    kind.Passes depth (tagText tag.inner ++ body ++ bareTag .endLoop) := by
  have opening : (Tag.ofInner tag.inner).keyword = .loop := congrArg Tag.keyword tag.ofInner_inner
  have closing := Tag.keyword_bare Keyword.isMeaningful_endLoop
  have noEnd := noEnd_bare Keyword.isMeaningful_endLoop
  rcases usual with rfl | rfl | rfl
  · exact passes_enclosed tag.noEnd_inner noEnd (by decide) opening closing (inside _)
  all_goals
    exact ((passes_of_ignores tag.noEnd_inner opening (by decide) depth).append
      (inside depth)).append (passes_of_ignores noEnd closing (by decide) depth)

/-- The middle tag of a condition passes where it cannot divide a block that is searched. -/
theorem passes_otherwise (within : kind = loopBlock ∨ depth ≠ 0) :
    kind.Passes depth (bareTag .otherwise) := by
  have keyword := Tag.keyword_bare Keyword.isMeaningful_otherwise
  have noEnd := noEnd_bare Keyword.isMeaningful_otherwise
  refine passes_tagText noEnd ?_ ?_ fun surface => ?_ <;> rw [keyword]
  · rcases usual with rfl | rfl | rfl <;> decide
  · rcases usual with rfl | rfl | rfl <;> decide
  · rcases within with rfl | deeper
    · decide
    · exact absurd surface deeper

/-- A condition around text that passes wherever no block is divided passes. -/
theorem ConditionTag.passes (tag : ConditionTag) {body : List Char}
    (inside : ∀ depth, kind = loopBlock ∨ depth ≠ 0 → kind.Passes depth body) :
    kind.Passes depth (tagText tag.inner ++ body ++ bareTag .endCondition) := by
  have opening : (Tag.ofInner tag.inner).keyword = .condition :=
    congrArg Tag.keyword tag.ofInner_inner
  have closing := Tag.keyword_bare Keyword.isMeaningful_endCondition
  have noEnd := noEnd_bare Keyword.isMeaningful_endCondition
  have deeper := inside (depth + 1) (.inr (Nat.succ_ne_zero depth))
  rcases usual with rfl | rfl | rfl
  · exact ((passes_of_ignores tag.noEnd_inner opening (by decide) depth).append
      (inside depth (.inl rfl))).append (passes_of_ignores noEnd closing (by decide) depth)
  all_goals exact passes_enclosed tag.noEnd_inner noEnd (by decide) opening closing deeper

end Passing

namespace Piece

mutual
/-- What is written from a piece passes. -/
theorem passes_print {kind : BlockKind} (usual : kind.IsUsual) :
    ∀ (piece : Piece) (depth : Nat), kind.Passes depth piece.print
  | .plain text, depth => by
      rw [print]
      exact kind.passes_of_not_occursIn depth text.noTag text.ends
  | .variable path, depth => by
      rw [print]
      exact kind.passes_of_not_occursIn depth path.noTag_print path.ends_print
  | .directive tag, depth => by
      rw [print]
      exact tag.passes usual
  | .loop tag body, depth => by
      rw [print]
      exact tag.passes usual fun depth => passes_printAll usual body depth
  | .when tag accepted, depth => by
      rw [print]
      exact tag.passes usual fun depth _ => passes_printAll usual accepted depth
  | .choice tag accepted rejected, depth => by
      rw [print]
      exact tag.passes usual fun depth within => (passes_printAll usual accepted depth).append
        ((passes_otherwise usual within).append (passes_printAll usual rejected depth))

theorem passes_printAll {kind : BlockKind} (usual : kind.IsUsual) :
    ∀ (pieces : List Piece) (depth : Nat), kind.Passes depth (printAll pieces)
  | [], depth => by
      rw [printAll]
      exact kind.passes_nil depth
  | piece :: pieces, depth => by
      rw [printAll]
      exact (passes_print usual piece depth).append (passes_printAll usual pieces depth)
end

end Piece

end Template

end Stencil
