import Stencil.Proofs.Render.Outcome
import Stencil.Proofs.Session.Transparency
import Stencil.Proofs.Template.Offset.Block
import Stencil.Proofs.Template.Reading

/-!
# Blocks that are skipped

A block is skipped if its loop has no elements or its condition is false.  Then the text
is rendered as if the block were not there, in the session that looking up the path of
its header leaves.  Of two branches only the one that the condition picks counts.

All that a text between the tags of a block has to do for this is to keep the tags
paired: the search for the end of the block, which goes through the text by offsets,
finds them where they stand (`BlockText.Paired`).  The text may be malformed in
every other way.  The search gives back what stands between the tags as it is
(`BlockText.closeBlock_of_paired`), and what stands there is read as a text of its own, so
that nothing outside of the tags depends on it (`BlockText.parse_whole`).
-/

set_option autoImplicit false

namespace Stencil

namespace Template

open String (utf8Len)
open Text (Between)

/-! ## Headers of blocks -/

/-- What the opening tag of a block says. -/
inductive BlockHeader
  | loop (header : LoopHeader)
  | choice (condition : Condition)

namespace BlockHeader

/-- The tags that the block is made of. -/
def kind : BlockHeader → BlockKind
  | .loop _ => loopBlock
  | .choice _ => conditionBlock

/-- The path that is looked up when rendering reaches the block. -/
def path : BlockHeader → String
  | .loop header => header.source
  | .choice condition => condition.path

/-- A tag opens a block with a header that can be read. -/
inductive IsOf (tag : Tag) : BlockHeader → Prop
  | loop {header : LoopHeader} (keyword : tag.keyword = .loop)
      (read : LoopHeader.read tag.header = .ok header) : IsOf tag (.loop header)
  | choice {condition : Condition} (keyword : tag.keyword = .condition)
      (read : readCondition tag.header = .ok condition) : IsOf tag (.choice condition)

/-- The node of the block.  A loop has no alternative. -/
def node (header : BlockHeader) (body alternative : List Node) : Node :=
  match header with
  | .loop header => .loop header body
  | .choice condition => .choice condition body alternative

end BlockHeader

/-- An opening tag with a readable header is read together with its block. -/
theorem parse_block {inner inside : List Char} {header : BlockHeader} {block : Block}
    (noEnd : ¬ closeTag.OccursIn inner) (headed : header.IsOf (.ofInner inner))
    (closed : closeBlock header.kind 0 inside = some block) :
    parse (tagText inner ++ inside) =
      header.node (parse block.body) (parse (block.alternative.getD [])) :: parse block.rest := by
  have opening := Tag.read_inner noEnd inside
  have whole : tagText inner ++ inside = openTag.text ++ (inner ++ closeTag.text ++ inside) := by
    simp only [tagText, List.append_assoc]
  rw [whole]
  cases headed with
  | loop keyword read => exact parse_loop opening keyword read closed
  | choice keyword read => exact parse_choice opening keyword read closed

/-! ## Texts of blocks -/

/-- The text of a block and the text behind it, tag by tag. -/
structure BlockText where
  /-- What stands between the marks of the opening tag. -/
  inner : List Char
  /-- What stands behind the opening tag, up to the next tag of the block. -/
  body : List Char
  /-- The dividing tag and what stands behind it, if there is one. -/
  divided : Option (List Char × List Char)
  /-- The closing tag. -/
  closing : List Char
  /-- What stands behind the block. -/
  rest : List Char

namespace BlockText

/-- Everything behind the opening tag. -/
def inside (text : BlockText) : List Char :=
  match text.divided with
  | none => text.body ++ (text.closing ++ text.rest)
  | some (divider, second) => text.body ++ (divider ++ (second ++ (text.closing ++ text.rest)))

def whole (text : BlockText) : List Char :=
  tagText text.inner ++ text.inside

/-- The offsets of the tags behind the opening tag. -/
def places (text : BlockText) : BlockAt :=
  let start := utf8Len (tagText text.inner) + utf8Len text.body
  match text.divided with
  | none => ⟨none, start, start + utf8Len text.closing⟩
  | some (divider, second) =>
    let behind := start + utf8Len divider
    ⟨some ⟨start, behind⟩, behind + utf8Len second,
      behind + utf8Len second + utf8Len text.closing⟩

/-- What stands behind the dividing tag. -/
def second? (text : BlockText) : Option (List Char) :=
  text.divided.map Prod.snd

/-- The same tags around another body. -/
def withBody (text : BlockText) (body : List Char) : BlockText :=
  { text with body }

/-- The same tags with something else behind the dividing one. -/
def withSecond (text : BlockText) (second : List Char) : BlockText :=
  { text with divided := text.divided.map fun parts => (parts.1, second) }

/-- The text starts with a tag that opens a block with a readable header. -/
structure Opens (text : BlockText) (header : BlockHeader) : Prop where
  noEnd : ¬ closeTag.OccursIn text.inner
  headed : header.IsOf (.ofInner text.inner)

/-- The search for the end of the block finds the tags at their places. -/
def Paired (text : BlockText) (kind : BlockKind) : Prop :=
  BlockAt.find text.whole kind (utf8Len text.whole) 0 none (utf8Len (tagText text.inner)) =
    some (some text.places)

instance (text : BlockText) (kind : BlockKind) : Decidable (text.Paired kind) :=
  inferInstanceAs (Decidable (_ = _))

variable {text : BlockText} {header : BlockHeader} {kind : BlockKind}

theorem between_inside (text : BlockText) :
    Between text.whole (utf8Len (tagText text.inner)) (utf8Len text.whole) text.inside := by
  have behind := (Between.whole text.whole).right
  rwa [Nat.zero_add] at behind

/-- The search gives back what stands between the tags that it finds. -/
theorem closeBlock_of_paired (paired : text.Paired kind) :
    closeBlock kind 0 text.inside = some ⟨text.body, text.second?, text.rest⟩ := by
  obtain ⟨found, searched, agrees⟩ := BlockAt.find_of_between kind 0 text.between_inside
  obtain rfl : some text.places = found := Option.some.inj (paired.symm.trans searched)
  have inside := text.between_inside
  generalize closeBlock kind 0 text.inside = closed at agrees
  cases agrees with
  | @some _ block stands =>
    obtain ⟨parts, -, rest⟩ := stands
    obtain ⟨body, alternative, behind⟩ := block
    cases divided : text.divided with
    | none =>
      simp only [places, divided, BlockText.inside] at parts rest inside
      obtain rfl := rest.unique inside.right.right
      cases alternative with
      | none =>
        obtain rfl := parts.2.unique inside.left
        simp [second?, divided]
      | some second =>
        obtain ⟨span, met, -⟩ := parts
        cases met
    | some pair =>
      obtain ⟨divider, second⟩ := pair
      simp only [places, divided, BlockText.inside] at parts rest inside
      obtain rfl := rest.unique inside.right.right.right.right
      cases alternative with
      | none => cases parts.1
      | some other =>
        obtain ⟨span, met, -, first, last⟩ := parts
        obtain rfl := Option.some.inj met
        obtain rfl := first.unique inside.left
        obtain rfl := last.unique inside.right.right.left
        simp [second?, divided]

/-- A text is read as its block and then as what stands behind the block. -/
theorem parse_whole (opens : text.Opens header) (paired : text.Paired header.kind) :
    parse text.whole =
      header.node (parse text.body) (parse (text.second?.getD [])) :: parse text.rest :=
  parse_block opens.noEnd opens.headed (closeBlock_of_paired paired)

/-- The block of a loop is not divided. -/
theorem second?_of_loop {loop : LoopHeader} (paired : text.Paired (BlockHeader.loop loop).kind) :
    text.second? = none :=
  alternative_of_closeBlock rfl (closeBlock_of_paired paired)

end BlockText

end Template

open Template (Node BlockHeader BlockText LoopHeader parse)

/-! ## What rendering does with a block -/

/-- Why a block is skipped in a scope, up to its dividing tag if it has one. -/
inductive Template.BlockHeader.Skips (host : Host) (strict : Bool) (scope : Scope) :
    BlockHeader → Prop
  /-- The path of a loop leads nowhere. -/
  | missing {header : LoopHeader} (nothing : (scope.resolve host header.source).value.1 = none) :
      Skips host strict scope (.loop header)
  /-- It leads to a value that has no elements to visit. -/
  | notIterable {header : LoopHeader} {value : Value}
      (found : (scope.resolve host header.source).value.1 = some value)
      (single : host.elements? value = none) : Skips host strict scope (.loop header)
  /-- It leads to a value that could have elements and has none. -/
  | noElements {header : LoopHeader} {value : Value}
      (found : (scope.resolve host header.source).value.1 = some value)
      (empty : host.elements? value = some []) : Skips host strict scope (.loop header)
  /-- A condition is false. -/
  | refused {condition : Condition}
      (fails : ((condition.check host strict).outcome scope).result = .ok false) :
      Skips host strict scope (.choice condition)

/-- A condition is true in a scope. -/
def Template.BlockHeader.Accepts (host : Host) (strict : Bool) (scope : Scope)
    (header : BlockHeader) : Prop :=
  ∃ condition, header = .choice condition ∧
    ((condition.check host strict).outcome scope).result = .ok true

/-- The scope that looking up the path of a header leaves. -/
def Template.BlockHeader.lookedUp (host : Host) (header : BlockHeader) (scope : Scope) : Scope :=
  (scope.resolve host header.path).value.2

section Outcomes

variable {host : Host} {strict : Bool} {scope : Scope} {header : BlockHeader}

/-- Of a block that is skipped the alternative is rendered. -/
theorem outcome_render_of_skips (skips : header.Skips host strict scope)
    (body alternative : List Node)
    (undivided : ∀ loop, header = .loop loop → alternative = []) :
    (Node.render host strict (header.node body alternative)).outcome scope =
      (Node.renderAll host strict alternative).outcome (header.lookedUp host scope) := by
  have idle {loop : LoopHeader} (alone : alternative = [])
      (nothing : ((scope.resolve host loop.source).value.1.bind host.elements?).getD [] = []) :
      (Node.render host strict ((BlockHeader.loop loop).node body alternative)).outcome scope =
        (Node.renderAll host strict alternative).outcome
          ((BlockHeader.loop loop).lookedUp host scope) := by
    rw [BlockHeader.node, Node.outcome_render_loop, nothing, alone, BlockHeader.lookedUp,
      BlockHeader.path, Rendering.forEach, Node.renderAll]
  cases skips with
  | missing nothing => exact idle (undivided _ rfl) (by rw [nothing]; rfl)
  | notIterable found single =>
    exact idle (undivided _ rfl) (by rw [found, Option.bind_some, single]; rfl)
  | noElements found empty =>
    exact idle (undivided _ rfl) (by rw [found, Option.bind_some, empty]; rfl)
  | refused fails =>
    rw [BlockHeader.node, Node.outcome_render_choice, fails, Condition.outcome_check]
    simp only [BlockHeader.lookedUp, BlockHeader.path]

/-- Of a block whose condition is true the body is rendered. -/
theorem outcome_render_of_accepts (accepts : header.Accepts host strict scope)
    (body alternative : List Node) :
    (Node.render host strict (header.node body alternative)).outcome scope =
      (Node.renderAll host strict body).outcome (header.lookedUp host scope) := by
  obtain ⟨condition, rfl, holds⟩ := accepts
  rw [BlockHeader.node, Node.outcome_render_choice, holds, Condition.outcome_check]
  simp only [BlockHeader.lookedUp, BlockHeader.path]

variable {text : BlockText} (opens : text.Opens header) (paired : text.Paired header.kind)
include opens paired

/-- Rendering a text whose block is skipped goes on behind the dividing tag, and then behind the
block. -/
theorem outcome_renderAll_of_skips (skips : header.Skips host strict scope) :
    (Node.renderAll host strict (parse text.whole)).outcome scope =
      ((Node.renderAll host strict (parse (text.second?.getD []))).append
        (Node.renderAll host strict (parse text.rest))).outcome (header.lookedUp host scope) := by
  have undivided (loop : LoopHeader) (isLoop : header = .loop loop) :
      parse (text.second?.getD []) = [] := by
    subst isLoop
    rw [BlockText.second?_of_loop paired, Option.getD_none, Template.parse_nil]
  rw [BlockText.parse_whole opens paired, Node.renderAll, Rendering.outcome_append,
    outcome_render_of_skips skips _ _ undivided, ← Rendering.outcome_append]

/-- Rendering a text whose condition is true goes on with the body, and then behind the block. -/
theorem outcome_renderAll_of_accepts (accepts : header.Accepts host strict scope) :
    (Node.renderAll host strict (parse text.whole)).outcome scope =
      ((Node.renderAll host strict (parse text.body)).append
        (Node.renderAll host strict (parse text.rest))).outcome (header.lookedUp host scope) := by
  rw [BlockText.parse_whole opens paired, Node.renderAll, Rendering.outcome_append,
    outcome_render_of_accepts accepts, ← Rendering.outcome_append]

end Outcomes

namespace Session

/-- Texts that come to the same in the scope of a session are rendered alike. -/
theorem value_render_congr {host : Host} {session : Session} {scope : Scope}
    {first second : List Char}
    (same : (Node.renderAll host session.strict (parse first)).outcome session.scope =
      (Node.renderAll host session.strict (parse second)).outcome scope) :
    (session.render host (.ofList first)).value =
      ((session.withScope scope).render host (.ofList second)).value := by
  rw [value_render, value_render, String.toList_ofList, String.toList_ofList, same]
  rfl

/-- **A skipped block is as if it were not there.**  Take a text that starts with a tag that opens a
block, with a readable header, and whose tags are paired.

If the block is not divided and is skipped, the text renders as what stands behind the block does,
in the session that looking up the path of the header leaves.

If its condition is true, what stands behind the dividing tag does not matter, and if the block is
skipped, its body does not: the text renders alike with any other that keeps the tags paired. -/
theorem render_blockText (host : Host) (session : Session) {text : BlockText}
    {header : BlockHeader} (opens : text.Opens header) (paired : text.Paired header.kind) :
    let renders (text : BlockText) : Except Error String × Session :=
      (session.render host (.ofList text.whole)).value
    (text.divided = none → header.Skips host session.strict session.scope →
      renders text = ((session.withScope (header.lookedUp host session.scope)).render host
        (.ofList text.rest)).value) ∧
    (header.Accepts host session.strict session.scope →
      ∀ second, (text.withSecond second).Paired header.kind →
        renders (text.withSecond second) = renders text) ∧
    (header.Skips host session.strict session.scope →
      ∀ body, (text.withBody body).Paired header.kind →
        renders (text.withBody body) = renders text) := by
  intro renders
  refine ⟨fun undivided skips => ?_, fun accepts second pairedSecond => ?_,
    fun skips body pairedBody => ?_⟩
  · have alone : text.second?.getD [] = [] := by rw [BlockText.second?, undivided]; rfl
    refine value_render_congr ?_
    rw [outcome_renderAll_of_skips opens paired skips, alone, Template.parse_nil,
      Node.renderAll, Rendering.outcome_append_of_ok (Rendering.outcome_pure [] _)]
    cases (Node.renderAll host session.strict (parse text.rest)).outcome
        (header.lookedUp host session.scope) with
    | mk result after => cases result <;> rfl
  · have opensSecond : (text.withSecond second).Opens header := ⟨opens.noEnd, opens.headed⟩
    refine value_render_congr ?_
    rw [outcome_renderAll_of_accepts opensSecond pairedSecond accepts,
      outcome_renderAll_of_accepts opens paired accepts]
    rfl
  · have opensBody : (text.withBody body).Opens header := ⟨opens.noEnd, opens.headed⟩
    refine value_render_congr ?_
    rw [outcome_renderAll_of_skips opensBody pairedBody skips,
      outcome_renderAll_of_skips opens paired skips]
    rfl

/-- Three blocks around malformed text: a loop without elements, before a variable that is not
closed; a condition that is false; and a condition with two branches, each of which is replaced by
malformed text where it does not count. -/
theorem render_blockText_malformed :
    let root : Value := .map [("none", .list []), ("n", .int 1)]
    let session := new .empty root
    let renders (text : BlockText) : Except Error String × Session :=
      (session.render .empty (.ofList text.whole)).value
    let each : BlockText := ⟨"foreach x in none".toList, "\x7b\x7bé\x7b%if%\x7d".toList, none,
      "\x7b%endfor é%\x7d".toList, "é\x7b\x7bn".toList⟩
    let when : BlockText := ⟨"if n>=2".toList, "\x7b\x7b\x7b%foreach%\x7d".toList, none,
      "\x7b%endif%\x7d".toList, "é\x7b\x7bn\x7d\x7d".toList⟩
    let choice (bound : String) : BlockText := ⟨("if n<" ++ bound).toList, "A".toList,
      some ("\x7b%else%\x7d".toList, "B".toList), "\x7b%endif%\x7d".toList, "!".toList⟩
    let broken := "\x7b%if%\x7d\x7b%else%\x7d\x7b%endif%\x7d\x7b\x7b".toList
    let goesOn (text : BlockText) (header : BlockHeader) : Prop :=
      renders text = ((session.withScope (header.lookedUp .empty session.scope)).render .empty
        (.ofList text.rest)).value
    (each.Paired Template.loopBlock ∧ goesOn each (.loop ⟨"x", "none"⟩) ∧
      (renders each).1 = .error (.malformed "expected `\x7d\x7d`" "\x7b\x7bn")) ∧
    (when.Paired Template.conditionBlock ∧ goesOn when (.choice ⟨"n", .atLeast, "2"⟩) ∧
      (renders when).1 = .ok "é1") ∧
    (((choice "2").withSecond broken).Paired Template.conditionBlock ∧
      renders ((choice "2").withSecond broken) = renders (choice "2") ∧
      (renders (choice "2")).1 = .ok "A!") ∧
    (((choice "1").withBody broken).Paired Template.conditionBlock ∧
      renders ((choice "1").withBody broken) = renders (choice "1") ∧
      (renders (choice "1")).1 = .ok "B!") := by
  intro root session renders each when choice broken goesOn
  have paired : each.Paired Template.loopBlock ∧ when.Paired Template.conditionBlock ∧
      (choice "2").Paired Template.conditionBlock ∧ (choice "1").Paired Template.conditionBlock ∧
      ((choice "2").withSecond broken).Paired Template.conditionBlock ∧
      ((choice "1").withBody broken).Paired Template.conditionBlock := by decide +kernel
  obtain ⟨pairedEach, pairedWhen, pairedLess, pairedLeast, pairedSecond, pairedBody⟩ := paired
  have opensEach : each.Opens (.loop ⟨"x", "none"⟩) :=
    ⟨by decide, .loop (by decide) (by decide)⟩
  have opensWhen : when.Opens (.choice ⟨"n", .atLeast, "2"⟩) :=
    ⟨by decide, .choice (by decide) (by decide)⟩
  have opensLess : (choice "2").Opens (.choice ⟨"n", .less, "2"⟩) :=
    ⟨by decide, .choice (by decide) (by decide)⟩
  have opensLeast : (choice "1").Opens (.choice ⟨"n", .less, "1"⟩) :=
    ⟨by decide, .choice (by decide) (by decide)⟩
  have skipsEach : BlockHeader.Skips .empty session.strict session.scope (.loop ⟨"x", "none"⟩) :=
    .noElements (show _ = some (Value.list []) by decide) (by decide)
  have skipsWhen : BlockHeader.Skips .empty session.strict session.scope
      (.choice ⟨"n", .atLeast, "2"⟩) := .refused (by decide +kernel)
  have skipsLeast : BlockHeader.Skips .empty session.strict session.scope
      (.choice ⟨"n", .less, "1"⟩) := .refused (by decide +kernel)
  have accepts : BlockHeader.Accepts .empty session.strict session.scope
      (.choice ⟨"n", .less, "2"⟩) := ⟨_, rfl, by decide +kernel⟩
  refine ⟨⟨pairedEach, ?_, by decide +kernel⟩, ⟨pairedWhen, ?_, by decide +kernel⟩,
    ⟨pairedSecond, ?_, by decide +kernel⟩, ⟨pairedBody, ?_, by decide +kernel⟩⟩
  · exact (render_blockText .empty session opensEach pairedEach).1 rfl skipsEach
  · exact (render_blockText .empty session opensWhen pairedWhen).1 rfl skipsWhen
  · exact (render_blockText .empty session opensLess pairedLess).2.1 accepts broken pairedSecond
  · exact (render_blockText .empty session opensLeast pairedLeast).2.2 skipsLeast broken pairedBody

end Session

end Stencil
