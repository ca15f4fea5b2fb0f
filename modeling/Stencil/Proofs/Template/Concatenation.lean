import Stencil.Proofs.Template.Block
import Stencil.Proofs.Template.Fault

/-!
# Reading two texts written one after the other

What has been read of a text stays as it is when more text is written behind it.
A tag that is closed in the text is closed at the same mark, and a block that ends in
the text ends at the same tag; only what is left to read gets longer
(`closeBlock_append_right`).

So the tree of two texts written one after the other is the tree of the first and
then that of the second (`parse_append`).  Two things can spoil this.  An opening
mark may stand across the seam, and the first text may have a flaw of its own, which
takes all that follows with it.  A flaw inside a block does no harm: the parts of a
block are read as texts of their own.
-/

set_option autoImplicit false

namespace Stencil.Template

open Text (Mark cutAt cutAt_append_right)

/-! ## Tags and blocks -/

theorem Tag.read_append_right {text rest : List Char} {tag : Tag}
    (read : Tag.read text = some (tag, rest)) (more : List Char) :
    Tag.read (text ++ more) = some (tag, rest ++ more) := by
  simp only [Tag.read, Option.map_eq_some_iff, Prod.mk.injEq] at read
  obtain ⟨⟨inner, remainder⟩, cut, rfl, rfl⟩ := read
  rw [Tag.read, cutAt_append_right cut more, Option.map_some]

/-- The tag with some text put behind everything. -/
def FoundTag.followedBy (found : FoundTag) (more : List Char) : FoundTag :=
  { found with after := found.after ++ more }

@[simp]
theorem FoundTag.tag_followedBy (found : FoundTag) (more : List Char) :
    (found.followedBy more).tag = found.tag := rfl

/-- The block with some text put behind everything. -/
def Block.followedBy (block : Block) (more : List Char) : Block :=
  { block with rest := block.rest ++ more }

/-- The first tag of a text is the first one of a longer text. -/
theorem nextTag_append_right {text : List Char} {found : FoundTag}
    (next : nextTag text = some found) (more : List Char) :
    nextTag (text ++ more) = some (found.followedBy more) := by
  unfold nextTag at next
  split at next
  · cases next
  · next before opened cut =>
    simp only [Option.map_eq_some_iff] at next
    obtain ⟨⟨inner, after⟩, closed, rfl⟩ := next
    simp only [nextTag, cutAt_append_right cut more, cutAt_append_right closed more,
      Option.map_some, FoundTag.followedBy]

/-- A block that ends in a text ends at the same tag of a longer text. -/
theorem closeBlock_append_right {kind : BlockKind} {depth : Nat} {text : List Char} {block : Block}
    (closed : closeBlock kind depth text = some block) (more : List Char) :
    closeBlock kind depth (text ++ more) = some (block.followedBy more) := by
  fun_induction closeBlock kind depth text generalizing block with
  | case1 => simp at closed
  | case2 kind depth text found next shorter opens ih =>
    obtain ⟨inner, closedInner, rfl⟩ := Option.map_eq_some_iff.mp closed
    rw [closeBlock_of_nextTag (nextTag_append_right next more), found.tag_followedBy, if_pos opens]
    exact congrArg (Option.map (Block.prepend found.passed)) (ih closedInner)
  | case3 kind text found next shorter opens closes =>
    obtain rfl := Option.some.inj closed
    rw [closeBlock_of_nextTag (nextTag_append_right next more), found.tag_followedBy, if_neg opens,
      if_pos closes]
    rfl
  | case4 kind text found next shorter opens closes outer ih =>
    obtain ⟨inner, closedInner, rfl⟩ := Option.map_eq_some_iff.mp closed
    rw [closeBlock_of_nextTag (nextTag_append_right next more), found.tag_followedBy, if_neg opens,
      if_pos closes]
    exact congrArg (Option.map (Block.prepend found.passed)) (ih closedInner)
  | case5 kind depth text found next shorter opens closes divides ih =>
    obtain ⟨inner, closedInner, rfl⟩ := Option.map_eq_some_iff.mp closed
    rw [closeBlock_of_nextTag (nextTag_append_right next more), found.tag_followedBy, if_neg opens,
      if_neg closes, if_pos divides]
    exact congrArg
      (Option.map fun block => (⟨found.before, some block.body, block.rest⟩ : Block))
      (ih closedInner)
  | case6 kind depth text found next shorter opens closes divides ih =>
    obtain ⟨inner, closedInner, rfl⟩ := Option.map_eq_some_iff.mp closed
    rw [closeBlock_of_nextTag (nextTag_append_right next more), found.tag_followedBy, if_neg opens,
      if_neg closes, if_neg divides]
    exact congrArg (Option.map (Block.prepend found.passed)) (ih closedInner)

/-! ## Whole texts -/

/-- No opening mark stands across the place where two texts meet. -/
def Seamless (left right : List Char) : Prop :=
  ¬ openVariable.Straddles left right ∧ ¬ openTag.Straddles left right

theorem Seamless.of_suffix {ending text more : List Char} (seamless : Seamless text more)
    (suffix : ending <:+ text) : Seamless ending more :=
  ⟨fun straddles => seamless.1 (straddles.of_suffix suffix),
    fun straddles => seamless.2 (straddles.of_suffix suffix)⟩

/-- Some nodes without a malformed part among them.  Those inside of blocks do not count. -/
def Sound (nodes : List Node) : Prop :=
  ∀ flaw tail, Node.fault flaw tail ∉ nodes

theorem Sound.of_cons {node : Node} {nodes : List Node} (sound : Sound (node :: nodes)) :
    Sound nodes :=
  fun flaw tail member => sound flaw tail (List.mem_cons_of_mem node member)

theorem not_sound_fault (flaw : Flaw) (tail : List Char) (nodes : List Node) :
    ¬ Sound (.fault flaw tail :: nodes) :=
  fun sound => sound flaw tail List.mem_cons_self

/-- What is written behind a text does not make an opening mark start at a plain character. -/
theorem not_prefix_of_not_straddles {mark : Mark} {character : Char} {text more : List Char}
    (plain : ∀ rest, character = mark.first → text = mark.second :: rest → False)
    (seam : ¬ mark.Straddles (character :: text) more) :
    ¬ mark.text <+: character :: (text ++ more) := by
  rintro ⟨rest, whole⟩
  simp only [Mark.text, List.cons_append, List.nil_append, List.cons.injEq] at whole
  obtain ⟨first, behind⟩ := whole
  cases text with
  | nil =>
    rw [List.nil_append] at behind
    exact seam ⟨congrArg some first.symm, by rw [← behind, List.head?_cons]⟩
  | cons second inner =>
    simp only [List.cons_append, List.cons.injEq] at behind
    exact plain inner first.symm (by rw [behind.1])

/-- **Reading texts one after the other.**  The tree of a sound text with another text behind it is
the tree of the first and then that of the second. -/
theorem parse_append {text more : List Char} (sound : Sound (parse text))
    (seamless : Seamless text more) : parse (text ++ more) = parse text ++ parse more := by
  fun_induction parse text with
  | case1 text missing => exact absurd sound (not_sound_fault _ _ _)
  | case2 text path rest cut shorter ih =>
    have behind := (suffix_of_cutAt cut).trans (List.suffix_append openVariable.text text)
    have whole := parse_variable (cutAt_append_right cut more)
    rw [ih sound.of_cons (seamless.of_suffix behind)] at whole
    exact whole
  | case3 text missing => exact absurd sound (not_sound_fault _ _ _)
  | case4 text tag rest read lengths keyword error headed =>
    exact absurd sound (not_sound_fault _ _ _)
  | case5 text tag rest read lengths keyword header headed missing =>
    exact absurd sound (not_sound_fault _ _ _)
  | case6 text tag rest read lengths keyword header headed block closed bounds ihBody ihRest =>
    have behind := (within_of_closeBlock closed).rest.trans
      ((Tag.rest_suffix_of_read read).trans (List.suffix_append openTag.text text))
    have whole := parse_loop (Tag.read_append_right read more) keyword headed
      (closeBlock_append_right closed more)
    simp only [Block.followedBy, ihRest sound.of_cons (seamless.of_suffix behind)] at whole
    exact whole
  | case7 text tag rest read lengths keyword error headed =>
    exact absurd sound (not_sound_fault _ _ _)
  | case8 text tag rest read lengths keyword condition headed missing =>
    exact absurd sound (not_sound_fault _ _ _)
  | case9 text tag rest read lengths keyword condition headed block closed bounds ihAccepted
      ihRejected ihRest =>
    have behind := (within_of_closeBlock closed).rest.trans
      ((Tag.rest_suffix_of_read read).trans (List.suffix_append openTag.text text))
    have whole := parse_choice (Tag.read_append_right read more) keyword headed
      (closeBlock_append_right closed more)
    simp only [Block.followedBy, ihRest sound.of_cons (seamless.of_suffix behind)] at whole
    exact whole
  | case10 text tag rest read lengths noLoop noCondition ih =>
    have behind := (Tag.suffix_of_read read).trans (List.suffix_append openTag.text text)
    have whole := parse_unopening (Tag.read_append_right read more) noLoop noCondition
    rw [← List.append_assoc (tag.header ++ closeTag.text),
      ih sound.of_cons (seamless.of_suffix behind)] at whole
    exact whole
  | case11 character text noVariable noTag ih =>
    have whole := parse_character (not_prefix_of_not_straddles noVariable seamless.1)
      (not_prefix_of_not_straddles noTag seamless.2)
    rw [ih sound.of_cons (seamless.of_suffix (List.suffix_cons character text))] at whole
    exact whole
  | case12 => rfl

end Stencil.Template
