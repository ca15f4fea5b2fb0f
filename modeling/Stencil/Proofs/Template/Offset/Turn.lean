import Stencil.Proofs.Template.Offset.Block
import Stencil.Proofs.Template.Offset.Header
import Stencil.Proofs.Template.Offset.Opening

/-!
# Reading a template turn by turn

A template can be rendered without its tree.  A cursor goes through the text; each
turn passes some plain text up to the next opening mark and says what is to be done
there and where the cursor goes on (`turnAt`).  The inside of a block is not read
but left as a range of offsets, to be gone through in the same way when rendering
comes to it.

In a range of the text there is always a turn, and it gives the first nodes of the
tree of what stands there (`turnAt_reads`).  The cursor moves forward and stays in
its range, and so do the ranges inside of a block (`Move.Reads.advances`), which is
what makes going through a text end.
-/

set_option autoImplicit false

namespace Stencil.Template

open Text (Between IsSlice cutAt findMark slice?)
open String (utf8Len)

/-! ## Turns -/

/-- What is to be done at an opening mark, with the offset to go on from. -/
inductive Move
  /-- Stop at a malformed part. -/
  | fault (flaw : Flaw) (tail : List Char)
  /-- Put the value at a path. -/
  | display (path : String) (resume : Nat)
  | directive (keyword : String) (resume : Nat)
  | loop (header : LoopHeader) (body : Span) (resume : Nat)
  /-- A condition with one branch. -/
  | when (condition : Condition) (accepted : Span) (resume : Nat)
  /-- A condition with two branches. -/
  | choice (condition : Condition) (accepted rejected : Span) (resume : Nat)
  deriving DecidableEq, Repr

/-- Some plain text, and what is to be done behind it unless the range ends there. -/
structure Turn where
  plain : List Char
  move : Option Move
  deriving DecidableEq, Repr

/-- A malformed part from an offset up to the end of a range. -/
def faultAt (text : List Char) (flaw : Flaw) (start limit : Nat) : Option Move := do
  let tail ← slice? text start limit
  return .fault flaw tail

/-- What is to be done at a mark that opens a variable. -/
def variableAt (text : List Char) (start limit : Nat) : Option Move := do
  match ← findMark text closeVariable (start + utf8Len openVariable.text) limit with
  | none => faultAt text .openVariable start limit
  | some close =>
    let path ← slice? text (start + utf8Len openVariable.text) close
    return .display (.ofList path) (close + utf8Len closeVariable.text)

/-- What is to be done at a tag that opens a block, its header read first and then its end found. -/
def blockAt {α : Type} (kind : BlockKind) (read : List Char → Option (Except HeaderError α))
    (unreadable : List Char → HeaderError → Flaw) (unclosed : Flaw) (move : α → BlockAt → Move)
    (text : List Char) (tag : TagAt) (limit : Nat) : Option Move := do
  let header ← slice? text tag.keywordEnd tag.close
  match ← read header with
  | .error error => faultAt text (unreadable header error) tag.start limit
  | .ok head =>
    match ← BlockAt.find text kind limit 0 none tag.stop with
    | none => faultAt text unclosed tag.start limit
    | some block => return move head block

/-- What is to be done at the tag of a loop. -/
def loopAt (text : List Char) (tag : TagAt) (limit : Nat) : Option Move :=
  blockAt loopBlock (fun header => some (LoopHeader.read header)) .loopHeader .openLoop
    (fun loop block => .loop loop ⟨tag.stop, block.closer⟩ block.stop) text tag limit

/-- What is to be done at the tag of a condition. -/
def conditionAt (text : List Char) (tag : TagAt) (limit : Nat) : Option Move :=
  blockAt conditionBlock readConditionAt .conditionHeader .openCondition
    (fun condition block =>
      match block.middle with
      | none => .when condition ⟨tag.stop, block.closer⟩ block.stop
      | some span =>
        .choice condition ⟨tag.stop, span.start⟩ ⟨span.stop, block.closer⟩ block.stop)
    text tag limit

/-- What is to be done at a mark that opens a tag. -/
def tagAt (text : List Char) (start limit : Nat) : Option Move := do
  match ← TagAt.read text start limit with
  | none => faultAt text .openTag start limit
  | some tag =>
    match tag.keyword with
    | .loop => loopAt text tag limit
    | .condition => conditionAt text tag limit
    | keyword => return .directive keyword.word tag.keywordEnd

/-- What is to be done at an opening mark. -/
def moveAt (text : List Char) (start limit : Nat) : Option Move := do
  -- The range is left out of account here; the mark has been found inside of it.
  let rest ← slice? text start (utf8Len text)
  if openVariable.text.isPrefixOf rest then variableAt text start limit else tagAt text start limit

/-- The turn of a cursor in a range. -/
def turnAt (text : List Char) (cursor limit : Nat) : Option Turn := do
  match ← findOpening text cursor limit with
  | none =>
    let plain ← slice? text cursor limit
    return ⟨plain, none⟩
  | some start =>
    let plain ← slice? text cursor start
    let move ← moveAt text start limit
    return ⟨plain, some move⟩

/-! ## Moves and nodes -/

/-- The nodes of what stands between an opening mark and the end of its range, as far as a move
gives them.  The ranges of the move stand in order behind the mark. -/
inductive Move.Reads (text : List Char) (start limit : Nat) : Move → List Node → Prop
  | fault (flaw : Flaw) (tail : List Char) :
      Reads text start limit (.fault flaw tail) [.fault flaw tail]
  | display {path : String} {resume : Nat} {rest : List Char} (forward : start < resume)
      (later : Between text resume limit rest) :
      Reads text start limit (.display path resume) (.variable path :: parse rest)
  | directive {keyword : String} {resume : Nat} {rest : List Char} (forward : start < resume)
      (later : Between text resume limit rest) :
      Reads text start limit (.directive keyword resume) (.directive keyword :: parse rest)
  | loop {header : LoopHeader} {body : Span} {resume : Nat} {inner rest : List Char}
      (opened : start < body.start) (inside : Between text body.start body.stop inner)
      (closed : body.stop < resume) (later : Between text resume limit rest) :
      Reads text start limit (.loop header body resume) (.loop header (parse inner) :: parse rest)
  | when {condition : Condition} {accepted : Span} {resume : Nat} {inner rest : List Char}
      (opened : start < accepted.start) (inside : Between text accepted.start accepted.stop inner)
      (closed : accepted.stop < resume) (later : Between text resume limit rest) :
      Reads text start limit (.when condition accepted resume)
        (.choice condition (parse inner) [] :: parse rest)
  | choice {condition : Condition} {accepted rejected : Span} {resume : Nat}
      {inner alternative rest : List Char} (opened : start < accepted.start)
      (inside : Between text accepted.start accepted.stop inner)
      (divided : accepted.stop < rejected.start)
      (otherwise : Between text rejected.start rejected.stop alternative)
      (closed : rejected.stop < resume) (later : Between text resume limit rest) :
      Reads text start limit (.choice condition accepted rejected resume)
        (.choice condition (parse inner) (parse alternative) :: parse rest)

/-- A move that can be made and gives some nodes. -/
def Moves (text : List Char) (start limit : Nat) (answer : Option Move) (nodes : List Node) :
    Prop :=
  ∃ move, answer = some move ∧ move.Reads text start limit nodes

section Moves

variable {text : List Char} {start limit : Nat}

theorem moves_faultAt {piece : List Char} (here : Between text start limit piece) (flaw : Flaw) :
    Moves text start limit (faultAt text flaw start limit) [.fault flaw piece] := by
  rw [faultAt, here.slice?]
  exact ⟨_, rfl, .fault flaw piece⟩

theorem moves_variableAt {opened : List Char}
    (here : Between text start limit (openVariable.text ++ opened)) :
    Moves text start limit (variableAt text start limit) (parse (openVariable.text ++ opened)) := by
  rw [variableAt, here.right.findMark]
  cases cut : cutAt closeVariable opened with
  | none =>
    rw [parse_open_variable cut]
    exact moves_faultAt here .openVariable
  | some found =>
    obtain ⟨path, rest⟩ := found
    rw [parse_variable cut]
    rw [Text.cutAt_append cut, List.append_assoc] at here
    have inside := here.right.left
    have behind := here.right.right.right
    refine ⟨.display (.ofList path) (start + utf8Len openVariable.text + utf8Len path +
      utf8Len closeVariable.text), ?_, .display ?_ behind⟩
    · simp only [Option.map_some, Option.bind_eq_bind, Option.bind_some, inside.slice?]
      rfl
    · have mark : 0 < utf8Len openVariable.text := by decide
      omega

section Tags

variable {opened inner rest : List Char} (here : Between text start limit (openTag.text ++ opened))
  (cut : cutAt closeTag opened = some (inner, rest))
include here cut

theorem between_tag_of_cutAt :
    Between text start limit (openTag.text ++ inner ++ closeTag.text ++ rest) := by
  rw [Text.cutAt_append cut] at here
  simpa only [List.append_assoc] using here

/-- A block that is found stands behind its tag, so a move over its parts can be made. -/
theorem moves_blockAt {α : Type} {kind : BlockKind}
    {read : List Char → Option (Except HeaderError α)} {unreadable : List Char → HeaderError → Flaw}
    {unclosed : Flaw} {move : α → BlockAt → Move} {answer : Except HeaderError α}
    {nodes : List Node}
    (headed : read (Tag.ofInner inner).header = some answer)
    (flawed : ∀ error, answer = .error error →
      nodes = [.fault (unreadable (Tag.ofInner inner).header error) (openTag.text ++ opened)])
    (missing : ∀ head, answer = .ok head → closeBlock kind 0 rest = none →
      nodes = [.fault unclosed (openTag.text ++ opened)])
    (made : ∀ head found block, answer = .ok head → closeBlock kind 0 rest = some block →
      BlockAt.Stands text (TagAt.ofInner start inner).stop limit found block →
      (move head found).Reads text start limit nodes) :
    Moves text start limit
      (blockAt kind read unreadable unclosed move text (.ofInner start inner) limit) nodes := by
  have parts := between_tag_of_cutAt here cut
  rw [blockAt, (TagAt.between_header parts).slice?]
  simp only [Option.bind_eq_bind, Option.bind_some, headed]
  cases answer with
  | error error =>
    rw [flawed error rfl]
    exact moves_faultAt here _
  | ok head =>
    obtain ⟨found, searched, agrees⟩ := BlockAt.find_of_between kind 0 (TagAt.between_rest parts)
    simp only [searched, Option.bind_some]
    generalize closed : closeBlock kind 0 rest = block at agrees
    cases agrees with
    | none =>
      rw [missing head rfl closed]
      exact moves_faultAt here _
    | some stands => exact ⟨_, rfl, made head _ _ rfl closed stands⟩

theorem moves_loopAt (keyword : (Tag.ofInner inner).keyword = .loop) :
    Moves text start limit (loopAt text (.ofInner start inner) limit)
      (parse (openTag.text ++ opened)) := by
  have read := Tag.read_of_cutAt cut
  refine moves_blockAt here cut rfl (fun error => parse_unreadable_loop read keyword)
    (fun loop => parse_open_loop read keyword) fun loop found block headed closed stands => ?_
  have body := stands.parts
  rw [alternative_of_closeBlock rfl closed] at body
  rw [parse_loop read keyword headed closed]
  exact .loop (TagAt.start_lt_stop_ofInner start inner) body.2 stands.closed stands.rest

theorem moves_conditionAt (keyword : (Tag.ofInner inner).keyword = .condition) :
    Moves text start limit (conditionAt text (.ofInner start inner) limit)
      (parse (openTag.text ++ opened)) := by
  have read := Tag.read_of_cutAt cut
  refine moves_blockAt here cut (readConditionAt_eq _)
    (fun error => parse_unreadable_condition read keyword)
    (fun condition => parse_open_condition read keyword)
    fun condition found block headed closed stands => ?_
  have behind := TagAt.start_lt_stop_ofInner start inner
  have branches := stands.parts
  rw [parse_choice read keyword headed closed]
  cases divided : block.alternative with
  | none =>
    rw [divided] at branches
    rw [branches.1, Option.getD_none, parse_nil]
    exact .when behind branches.2 stands.closed stands.rest
  | some alternative =>
    rw [divided] at branches
    obtain ⟨span, met, order, first, second⟩ := branches
    rw [met, Option.getD_some]
    exact .choice behind first order second stands.closed stands.rest

end Tags

theorem moves_tagAt {opened : List Char}
    (here : Between text start limit (openTag.text ++ opened)) :
    Moves text start limit (tagAt text start limit) (parse (openTag.text ++ opened)) := by
  rw [tagAt, TagAt.read_of_between here.right]
  simp only [Option.bind_eq_bind, Option.bind_some]
  cases cut : cutAt closeTag opened with
  | none =>
    rw [parse_open_tag (by rw [Tag.read, cut, Option.map_none])]
    exact moves_faultAt here .openTag
  | some found =>
    obtain ⟨inner, rest⟩ := found
    simp only [Option.map_some]
    split
    · next keyword => exact moves_loopAt here cut keyword
    · next keyword => exact moves_conditionAt here cut keyword
    · next noLoop noCondition =>
      rw [parse_unopening (Tag.read_of_cutAt cut) noLoop noCondition]
      have parts := between_tag_of_cutAt here cut
      exact ⟨_, rfl, .directive (TagAt.start_lt_keywordEnd_ofInner start inner)
        (TagAt.between_resume parts)⟩

theorem moves_moveAt {opened : List Char} (here : Between text start limit opened)
    (marked : opens opened = true) :
    Moves text start limit (moveAt text start limit) (parse opened) := by
  obtain ⟨after, toEnd⟩ := here.exists_to_end
  rw [moveAt, toEnd.slice?]
  simp only [Option.bind_eq_bind, Option.bind_some]
  simp only [opens, Bool.or_eq_true, List.isPrefixOf_iff_prefix] at marked
  rcases marked with ⟨inner, rfl⟩ | ⟨inner, rfl⟩
  · rw [if_pos (by simp)]
    exact moves_variableAt here
  · rw [if_neg (by simp [openVariable, openTag, Text.Mark.text])]
    exact moves_tagAt here

end Moves

/-! ## Turns and nodes -/

/-- The nodes of what stands in a range, as far as a turn gives them. -/
def Turn.Reads (turn : Turn) (text : List Char) (cursor limit : Nat) (nodes : List Node) : Prop :=
  match turn.move with
  | none => nodes = turn.plain.map .text
  | some move => ∃ start others, cursor ≤ start ∧ move.Reads text start limit others ∧
      nodes = turn.plain.map .text ++ others

/-- **A turn.**  In a range of a text there is always a turn, and it gives the first nodes of the
tree of what stands there. -/
theorem turnAt_reads {text piece : List Char} {cursor limit : Nat}
    (here : Between text cursor limit piece) :
    ∃ turn, turnAt text cursor limit = some turn ∧ turn.Reads text cursor limit (parse piece) := by
  rw [turnAt, findOpening_of_between here]
  simp only [Option.bind_eq_bind, Option.bind_some]
  cases cut : cutOpening piece with
  | none =>
    simp only [Option.map_none, here.slice?, Option.bind_some]
    exact ⟨_, rfl, parse_of_no_opening cut⟩
  | some found =>
    obtain ⟨before, opened⟩ := found
    obtain ⟨rfl, marked, tree⟩ := opensAfter_of_cutOpening cut
    obtain ⟨move, made, reads⟩ := moves_moveAt here.right marked
    simp only [Option.map_some, here.left.slice?, made, Option.bind_some]
    exact ⟨_, rfl, _, _, Nat.le_add_right _ _, reads, tree⟩

/-- The marks of a tag do not overlap. -/
example : turnAt "é\x7b%\x7d".toList 0 5 =
    some ⟨['é'], some (.fault .openTag "\x7b%\x7d".toList)⟩ := by
  decide +kernel

theorem reads_of_turnAt {text piece : List Char} {cursor limit : Nat} {turn : Turn}
    (here : Between text cursor limit piece) (made : turnAt text cursor limit = some turn) :
    turn.Reads text cursor limit (parse piece) := by
  obtain ⟨turn', made', reads⟩ := turnAt_reads here
  exact Option.some.inj (made.symm.trans made') ▸ reads

/-! ## The way that a turn makes -/

/-- The cursor goes forward in its range, and the ranges inside of a block stand in order between
the cursor and the place where it goes on.  A text can be cut at all of them. -/
def Move.Advances (text : List Char) (cursor limit : Nat) : Move → Prop
  | .fault _ _ => True
  | .display _ resume | .directive _ resume => cursor < resume ∧ IsSlice text resume limit
  | .loop _ inside resume | .when _ inside resume =>
    cursor < inside.start ∧ IsSlice text inside.start inside.stop ∧ inside.stop < resume ∧
      IsSlice text resume limit
  | .choice _ accepted rejected resume =>
    cursor < accepted.start ∧ IsSlice text accepted.start accepted.stop ∧
      accepted.stop < rejected.start ∧ IsSlice text rejected.start rejected.stop ∧
      rejected.stop < resume ∧ IsSlice text resume limit

theorem Move.Reads.advances {text : List Char} {cursor start limit : Nat} {move : Move}
    {nodes : List Node} (behind : cursor ≤ start) (reads : move.Reads text start limit nodes) :
    move.Advances text cursor limit := by
  cases reads with
  | fault flaw tail => trivial
  | display forward later => exact ⟨behind.trans_lt forward, later.isSlice⟩
  | directive forward later => exact ⟨behind.trans_lt forward, later.isSlice⟩
  | loop opened inside closed later =>
    exact ⟨behind.trans_lt opened, inside.isSlice, closed, later.isSlice⟩
  | when opened inside closed later =>
    exact ⟨behind.trans_lt opened, inside.isSlice, closed, later.isSlice⟩
  | choice opened inside divided otherwise closed later =>
    exact ⟨behind.trans_lt opened, inside.isSlice, divided, otherwise.isSlice, closed,
      later.isSlice⟩

/-- The ranges that are gone through after a move: those inside of a block, and the rest of the
range that the move was made in. -/
def Move.ranges (limit : Nat) : Move → List Span
  | .fault _ _ => []
  | .display _ resume | .directive _ resume => [⟨resume, limit⟩]
  | .loop _ inside resume | .when _ inside resume => [inside, ⟨resume, limit⟩]
  | .choice _ accepted rejected resume => [accepted, rejected, ⟨resume, limit⟩]

/-- Each range gone through after a move is shorter than the range that the move was made in. -/
theorem Move.Advances.shorter {text : List Char} {cursor limit : Nat} :
    ∀ {move : Move}, move.Advances text cursor limit →
      ∀ span ∈ move.ranges limit, span.stop - span.start < limit - cursor
  | .fault _ _, _ => by simp [ranges]
  | .display _ resume, ⟨forward, later⟩ | .directive _ resume, ⟨forward, later⟩ => by
    have remains := later.ordered
    simp only [ranges, List.mem_singleton, forall_eq]
    omega
  | .loop _ inside resume, ⟨opened, inner, closed, later⟩
  | .when _ inside resume, ⟨opened, inner, closed, later⟩ => by
    have ordered := inner.ordered
    have remains := later.ordered
    simp only [ranges, List.mem_cons, List.not_mem_nil, or_false, forall_eq_or_imp, forall_eq]
    omega
  | .choice _ accepted rejected resume, ⟨opened, first, divided, second, closed, later⟩ => by
    have orderedFirst := first.ordered
    have orderedSecond := second.ordered
    have remains := later.ordered
    simp only [ranges, List.mem_cons, List.not_mem_nil, or_false, forall_eq_or_imp, forall_eq]
    omega

/-- A turn that can be made advances. -/
theorem advances_of_turnAt {text : List Char} {cursor limit : Nat} {turn : Turn}
    (made : turnAt text cursor limit = some turn) :
    ∀ move ∈ turn.move, move.Advances text cursor limit := by
  cases sliced : slice? text cursor limit with
  | none => simp [turnAt, findOpening, sliced] at made
  | some piece =>
    have reads := reads_of_turnAt (Text.slice?_eq_some_iff.mp sliced) made
    intro move present
    rw [Option.mem_def] at present
    simp only [Turn.Reads, present] at reads
    obtain ⟨start, others, behind, reads, -⟩ := reads
    exact reads.advances behind

/-- Where a text can be cut there is a turn. -/
theorem exists_turnAt {text : List Char} {cursor limit : Nat} (range : IsSlice text cursor limit) :
    ∃ turn, turnAt text cursor limit = some turn := by
  obtain ⟨piece, here⟩ := Text.isSlice_iff_exists_between.mp range
  obtain ⟨turn, made, -⟩ := turnAt_reads here
  exact ⟨turn, made⟩

end Stencil.Template
