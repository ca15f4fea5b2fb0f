import Stencil.Proofs.Template.Parse

/-!
# Malformed parts stand on their own

A malformed part is kept with the text from its opening mark on, up to the end of
the block that it stands in.  That text is a contiguous piece of the template, and
read as a template of its own it has the very same flaw (`FaultIn.recurs`).

Two facts carry this.  Everything that is read as a text of its own, a part of a
block or what stands behind a tag, is a piece of the text it comes from
(`Block.Within`); and a flaw is decided by the text from its opening mark on, so that
neither the place of the piece nor the depth of the blocks around it plays a part.
-/

set_option autoImplicit false

namespace Stencil.Template

open Text (Mark cutAt)

/-! ## Pieces of a text -/

theorem suffix_of_cutAt {mark : Mark} {text before after : List Char}
    (cut : cutAt mark text = some (before, after)) : after <:+ text := by
  rw [Text.cutAt_append cut]
  exact List.suffix_append _ after

theorem Tag.header_suffix_ofInner (inner : List Char) : (ofInner inner).header <:+ inner :=
  (List.dropWhile_suffix _).trans (List.dropWhile_suffix _)

/-- The header of a tag and all that follows it is the end of the text. -/
theorem Tag.suffix_of_read {text rest : List Char} {tag : Tag}
    (read : Tag.read text = some (tag, rest)) : tag.header ++ closeTag.text ++ rest <:+ text := by
  simp only [Tag.read, Option.map_eq_some_iff, Prod.mk.injEq] at read
  obtain ⟨⟨inner, remainder⟩, cut, rfl, rfl⟩ := read
  obtain ⟨skipped, whole⟩ := Tag.header_suffix_ofInner inner
  refine ⟨skipped, ?_⟩
  rw [Text.cutAt_append cut, ← List.append_assoc, ← List.append_assoc, whole]

theorem Tag.rest_suffix_of_read {text rest : List Char} {tag : Tag}
    (read : Tag.read text = some (tag, rest)) : rest <:+ text :=
  (List.suffix_append _ rest).trans (Tag.suffix_of_read read)

/-- Every part of a block is a piece of a text. -/
structure Block.Within (block : Block) (text : List Char) : Prop where
  body : block.body <+: text
  alternative : block.alternative.getD [] <:+: text
  rest : block.rest <:+ text

namespace Block.Within

/-- A block behind some text, taken together with that text. -/
theorem prepend {block : Block} {after : List Char} (within : block.Within after)
    (skipped : List Char) : (block.prepend skipped).Within (skipped ++ after) where
  body := (List.prefix_append_right_inj skipped).mpr within.body
  alternative := within.alternative.trans (List.suffix_append skipped after).isInfix
  rest := within.rest.trans (List.suffix_append skipped after)

end Block.Within

theorem FoundTag.append_of_nextTag {text : List Char} {found : FoundTag}
    (next : nextTag text = some found) : found.passed ++ found.after = text :=
  (nextTag_append next).symm

/-- The parts of a block are pieces of the text it was found in. -/
theorem within_of_closeBlock {kind : BlockKind} {depth : Nat} {text : List Char} {block : Block}
    (closed : closeBlock kind depth text = some block) : block.Within text := by
  fun_induction closeBlock kind depth text generalizing block with
  | case1 => simp at closed
  | case2 kind depth text found next shorter opens ih =>
    obtain ⟨inner, closedInner, rfl⟩ := Option.map_eq_some_iff.mp closed
    rw [← FoundTag.append_of_nextTag next]
    exact (ih closedInner).prepend found.passed
  | case3 kind text found next shorter opens closes =>
    obtain rfl := Option.some.inj closed
    rw [nextTag_append next]
    exact ⟨⟨_, (List.append_assoc _ _ _).symm⟩, List.nil_infix, List.suffix_append _ _⟩
  | case4 kind text found next shorter opens closes outer ih =>
    obtain ⟨inner, closedInner, rfl⟩ := Option.map_eq_some_iff.mp closed
    rw [← FoundTag.append_of_nextTag next]
    exact (ih closedInner).prepend found.passed
  | case5 kind depth text found next shorter opens closes divides ih =>
    obtain ⟨inner, closedInner, rfl⟩ := Option.map_eq_some_iff.mp closed
    have within := ih closedInner
    have behind : found.after <:+ text := by
      rw [nextTag_append next]
      exact List.suffix_append _ _
    refine ⟨?_, within.body.isInfix.trans behind.isInfix, within.rest.trans behind⟩
    rw [nextTag_append next]
    exact ⟨_, (List.append_assoc _ _ _).symm⟩
  | case6 kind depth text found next shorter opens closes divides ih =>
    obtain ⟨inner, closedInner, rfl⟩ := Option.map_eq_some_iff.mp closed
    rw [← FoundTag.append_of_nextTag next]
    exact (ih closedInner).prepend found.passed

/-! ## Malformed parts -/

/-- A malformed part among some nodes, at any depth. -/
inductive FaultIn (flaw : Flaw) (tail : List Char) : List Node → Prop
  | here (nodes : List Node) : FaultIn flaw tail (.fault flaw tail :: nodes)
  | later (node : Node) {nodes : List Node} (inside : FaultIn flaw tail nodes) :
      FaultIn flaw tail (node :: nodes)
  | body (header : LoopHeader) {body : List Node} (nodes : List Node)
      (inside : FaultIn flaw tail body) : FaultIn flaw tail (.loop header body :: nodes)
  | accepted (condition : Condition) {accepted : List Node} (rejected nodes : List Node)
      (inside : FaultIn flaw tail accepted) :
      FaultIn flaw tail (.choice condition accepted rejected :: nodes)
  | rejected (condition : Condition) (accepted : List Node) {rejected : List Node}
      (nodes : List Node) (inside : FaultIn flaw tail rejected) :
      FaultIn flaw tail (.choice condition accepted rejected :: nodes)

/-- A piece of a text that starts with an opening mark and has a flaw on its own. -/
structure Recurs (flaw : Flaw) (tail text : List Char) : Prop where
  piece : tail <:+: text
  opening : openVariable.text <+: tail ∨ openTag.text <+: tail
  again : parse tail = [.fault flaw tail]

variable {flaw : Flaw} {tail : List Char}

theorem Recurs.widen {inner text : List Char} (recurs : Recurs flaw tail inner)
    (piece : inner <:+: text) : Recurs flaw tail text :=
  ⟨recurs.piece.trans piece, recurs.opening, recurs.again⟩

/-- In a text that is malformed from its start on the malformed part is the text itself. -/
theorem FaultIn.recurs_here {found : Flaw} {text : List Char}
    (opening : openVariable.text <+: text ∨ openTag.text <+: text)
    (malformed : parse text = [.fault found text])
    (inside : FaultIn flaw tail [.fault found text]) :
    Recurs flaw tail text := by
  cases inside with
  | here => exact ⟨List.infix_rfl, opening, malformed⟩
  | later _ nowhere => cases nowhere

/-- A malformed part of a text is a piece of it, and malformed in the same way on its own. -/
theorem FaultIn.recurs {text : List Char} (inside : FaultIn flaw tail (parse text)) :
    Recurs flaw tail text := by
  have atVariable (text : List Char) : openVariable.text <+: openVariable.text ++ text ∨
      openTag.text <+: openVariable.text ++ text := .inl (List.prefix_append _ text)
  have atTag (text : List Char) : openVariable.text <+: openTag.text ++ text ∨
      openTag.text <+: openTag.text ++ text := .inr (List.prefix_append _ text)
  fun_induction parse text with
  | case1 text missing => exact inside.recurs_here (atVariable text) (parse_open_variable missing)
  | case2 text path rest cut shorter ih =>
    cases inside with
    | later _ inside =>
      exact (ih inside).widen
        ((suffix_of_cutAt cut).trans (List.suffix_append openVariable.text text)).isInfix
  | case3 text missing => exact inside.recurs_here (atTag text) (parse_open_tag missing)
  | case4 text tag rest read lengths keyword error headed =>
    exact inside.recurs_here (atTag text) (parse_unreadable_loop read keyword headed)
  | case5 text tag rest read lengths keyword header headed missing =>
    exact inside.recurs_here (atTag text) (parse_open_loop read keyword headed missing)
  | case6 text tag rest read lengths keyword header headed block closed bounds ihBody ihRest =>
    -- a part of a block is read as a text of its own, so its faults are faults of that text
    have within := within_of_closeBlock closed
    have behind : rest <:+ openTag.text ++ text :=
      (Tag.rest_suffix_of_read read).trans (List.suffix_append _ text)
    cases inside with
    | later _ inside => exact (ihRest inside).widen (within.rest.trans behind).isInfix
    | body _ _ inside => exact (ihBody inside).widen (within.body.isInfix.trans behind.isInfix)
  | case7 text tag rest read lengths keyword error headed =>
    exact inside.recurs_here (atTag text) (parse_unreadable_condition read keyword headed)
  | case8 text tag rest read lengths keyword condition headed missing =>
    exact inside.recurs_here (atTag text) (parse_open_condition read keyword headed missing)
  | case9 text tag rest read lengths keyword condition headed block closed bounds ihAccepted
      ihRejected ihRest =>
    have within := within_of_closeBlock closed
    have behind : rest <:+ openTag.text ++ text :=
      (Tag.rest_suffix_of_read read).trans (List.suffix_append _ text)
    cases inside with
    | later _ inside => exact (ihRest inside).widen (within.rest.trans behind).isInfix
    | accepted _ _ _ inside =>
      exact (ihAccepted inside).widen (within.body.isInfix.trans behind.isInfix)
    | rejected _ _ _ inside =>
      exact (ihRejected inside).widen (within.alternative.trans behind.isInfix)
  | case10 text tag rest read lengths noLoop noCondition ih =>
    cases inside with
    | later _ inside =>
      exact (ih inside).widen
        ((Tag.suffix_of_read read).trans (List.suffix_append openTag.text text)).isInfix
  | case11 character text noVariable noTag ih =>
    cases inside with
    | later _ inside => exact (ih inside).widen (List.suffix_cons character text).isInfix
  | case12 => cases inside

end Stencil.Template
