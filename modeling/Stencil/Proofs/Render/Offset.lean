import Stencil.Proofs.Render.Outcome
import Stencil.Proofs.Template.Offset.Turn

/-!
# Rendering without a tree

A template rendered by going through its text with a cursor, turn by turn.  The body
of a loop is a range of the text that is gone through once for each element, and of
a condition only the range of the branch that is taken is gone through.

Each piece of the text is cut out between two offsets, and there is no answer when
it cannot be (`Guarded`).  There always is one: in a range of the text the outcome
is that of rendering the tree of what stands there (`renderBetween_of_between`).
The recursion is on the length of the range that is left, which every turn makes
shorter (`Template.Move.Advances.shorter`).
-/

set_option autoImplicit false

namespace Stencil

open Text (Between IsSlice slice?)
open String (utf8Len)
open Template (Node Move Turn BlockAt parse turnAt nextTagAt)

/-! ## Computations that cut a text -/

/-- A computation in a scope that has no answer when a text cannot be cut. -/
abbrev Guarded (α : Type) : Type := Scope → Option (Outcome α)

namespace Guarded

variable {α β : Type}

/-- A computation that cuts no text. -/
def lift (rendering : Rendering α) : Guarded α := fun scope => some (rendering.outcome scope)

/-- Gives a text. -/
def answer (text : List Char) : Guarded (List Char) := lift fun scope => pure (.ok text scope)

/-- Goes on with the answer of a computation, unless it failed. -/
def andThen (first : Guarded α) (next : α → Guarded β) : Guarded β := fun scope => do
  let outcome ← first scope
  match outcome.result with
  | .ok answer => next answer outcome.scope
  | .error error => return .failed error outcome.scope

/-- One text after the other. -/
def append (first second : Guarded (List Char)) : Guarded (List Char) :=
  andThen first fun before => andThen second fun after => fun scope =>
    some (.ok (before ++ after) scope)

/-- Runs with a name bound to a value, and takes the binding away. -/
def binding (name : String) (value : Value) (body : Guarded α) : Guarded α := fun scope => do
  let outcome ← body (scope.push name value)
  return ⟨outcome.result, (outcome.scope.pop name value).2⟩

/-- The texts of a body for each of some elements. -/
def forEach (name : String) (body : Guarded (List Char)) : List Value → Guarded (List Char)
  | [] => fun scope => some (.ok [] scope)
  | element :: elements => append (binding name element body) (forEach name body elements)

theorem andThen_lift (first : Rendering α) (next : α → Rendering β) :
    andThen (lift first) (fun answer => lift (next answer)) = lift (first.andThen next) := by
  funext scope
  simp only [andThen, lift, Rendering.outcome_andThen, Option.bind_eq_bind, Option.bind_some]
  cases (first.outcome scope).result <;> rfl

theorem append_lift (first second : Rendering (List Char)) :
    append (lift first) (lift second) = lift (first.append second) := by
  have behind (before : List Char) :
      andThen (lift second) (fun after => fun scope => some (.ok (before ++ after) scope)) =
        lift (second.andThen fun after => fun scope => pure (.ok (before ++ after) scope)) :=
    andThen_lift second fun after => fun scope => pure (.ok (before ++ after) scope)
  simp only [append, behind]
  exact andThen_lift first _

theorem binding_lift (name : String) (value : Value) (body : Rendering α) :
    binding name value (lift body) = lift (Rendering.binding name value body) := rfl

theorem forEach_lift (name : String) (body : Rendering (List Char)) (elements : List Value) :
    forEach name (lift body) elements = lift (Rendering.forEach name body elements) := by
  induction elements with
  | nil => rfl
  | cons element elements ih =>
    rw [forEach, ih, binding_lift, append_lift]
    rfl

end Guarded

/-! ## Rendering turn by turn -/

namespace Template

/-- Plain text, then the text of a node, then the rest. -/
def Turn.render (plain : List Char) (node rest : Guarded (List Char)) : Guarded (List Char) :=
  .append (.answer plain) (.append node rest)

/-- The text of what stands in a range of a text. -/
def renderBetween (host : Host) (strict : Bool) (text : List Char) (cursor limit : Nat) :
    Guarded (List Char) :=
  if cursor < limit then
    match _ : turnAt text cursor limit with
    | none => fun _ => none
    | some ⟨plain, none⟩ => .answer plain
    | some ⟨plain, some (.fault flaw tail)⟩ =>
      Turn.render plain (.lift (Node.render host strict (.fault flaw tail)))
        (.answer [])
    | some ⟨plain, some (.display path resume)⟩ =>
      Turn.render plain (.lift (Node.render host strict (.variable path)))
        (renderBetween host strict text resume limit)
    | some ⟨plain, some (.directive keyword resume)⟩ =>
      Turn.render plain (.lift (Node.render host strict (.directive keyword)))
        (renderBetween host strict text resume limit)
    | some ⟨plain, some (.loop header body resume)⟩ =>
      Turn.render plain
        (.andThen (.lift (Rendering.elementsAt host header.source))
          (Guarded.forEach header.name (renderBetween host strict text body.start body.stop)))
        (renderBetween host strict text resume limit)
    | some ⟨plain, some (.when condition accepted resume)⟩ =>
      Turn.render plain
        (.andThen (.lift (condition.check host strict)) fun holds =>
          if holds then renderBetween host strict text accepted.start accepted.stop
          else .answer [])
        (renderBetween host strict text resume limit)
    | some ⟨plain, some (.choice condition accepted rejected resume)⟩ =>
      Turn.render plain
        (.andThen (.lift (condition.check host strict)) fun holds =>
          if holds then renderBetween host strict text accepted.start accepted.stop
          else renderBetween host strict text rejected.start rejected.stop)
        (renderBetween host strict text resume limit)
  else .answer []
termination_by limit - cursor
decreasing_by
  -- Every arm goes on in ranges of the move that it matches.
  all_goals
    have shorter := (advances_of_turnAt ‹turnAt text cursor limit = _› _ rfl).shorter
    simp only [Move.ranges, List.mem_cons, List.not_mem_nil, or_false, forall_eq_or_imp,
      forall_eq] at shorter
    simp only [shorter]

/-! ## Agreement -/

theorem Turn.render_lift (host : Host) (strict : Bool) (plain : List Char) (node : Node)
    (nodes : List Node) :
    Turn.render plain (.lift (Node.render host strict node))
        (.lift (Node.renderAll host strict nodes)) =
      .lift (Node.renderAll host strict (plain.map .text ++ node :: nodes)) := by
  rw [Turn.render, Guarded.answer, Guarded.append_lift, Guarded.append_lift]
  funext scope
  rw [Guarded.lift, Guarded.lift, Node.outcome_renderAll_append,
    Rendering.outcome_append_of_ok (Rendering.outcome_pure plain scope),
    Rendering.outcome_append_of_ok (Node.outcome_renderAll_text host strict plain scope),
    Node.renderAll]

theorem Node.render_loop_lift (host : Host) (strict : Bool) (header : LoopHeader)
    (body : List Node) :
    Guarded.andThen (.lift (Rendering.elementsAt host header.source))
        (Guarded.forEach header.name (.lift (renderAll host strict body))) =
      .lift (render host strict (.loop header body)) := by
  have each : Guarded.forEach header.name (.lift (renderAll host strict body)) =
      fun elements => .lift (.forEach header.name (renderAll host strict body) elements) :=
    funext fun elements => Guarded.forEach_lift header.name _ elements
  rw [each, Guarded.andThen_lift, render]

theorem Node.render_choice_lift (host : Host) (strict : Bool) (condition : Condition)
    (accepted rejected : List Node) :
    Guarded.andThen (.lift (condition.check host strict))
        (fun holds => if holds then .lift (renderAll host strict accepted)
          else .lift (renderAll host strict rejected)) =
      .lift (render host strict (.choice condition accepted rejected)) := by
  have branch (holds : Bool) :
      (if holds then Guarded.lift (renderAll host strict accepted)
        else .lift (renderAll host strict rejected)) =
      .lift (if holds then renderAll host strict accepted else renderAll host strict rejected) := by
    cases holds <;> rfl
  simp only [branch]
  rw [Guarded.andThen_lift, render]

/-- **Rendering by offsets.**  In a range of a text the outcome is that of rendering the tree of
what stands there. -/
theorem renderBetween_of_between (host : Host) (strict : Bool) {text piece : List Char}
    {cursor limit : Nat} (here : Between text cursor limit piece) :
    renderBetween host strict text cursor limit =
      .lift (Node.renderAll host strict (parse piece)) := by
  -- By the recursion of the cursor.  What stands in each range that it goes on in is given by the
  -- turn, and the rest of the tree is that of the piece behind the turn.
  fun_induction renderBetween host strict text cursor limit generalizing piece with
  | case1 cursor limit within broken =>
    obtain ⟨turn, made, -⟩ := turnAt_reads here
    cases broken.symm.trans made
  | case2 cursor limit within plain made =>
    have tree : parse piece = plain.map .text := reads_of_turnAt here made
    rw [tree]
    funext scope
    exact congrArg some (Node.outcome_renderAll_text host strict plain scope).symm
  | case3 cursor limit within plain flaw tail made =>
    obtain ⟨start, others, -, reads, tree⟩ := reads_of_turnAt here made
    cases reads
    rw [tree, ← Turn.render_lift, Node.renderAll, Guarded.answer]
  | case4 cursor limit within plain path resume made ih =>
    obtain ⟨start, others, -, reads, tree⟩ := reads_of_turnAt here made
    cases reads with
    | display forward later => rw [tree, ← Turn.render_lift, ih later]
  | case5 cursor limit within plain keyword resume made ih =>
    obtain ⟨start, others, -, reads, tree⟩ := reads_of_turnAt here made
    cases reads with
    | directive forward later => rw [tree, ← Turn.render_lift, ih later]
  | case6 cursor limit within plain header body resume made ihBody ihRest =>
    obtain ⟨start, others, -, reads, tree⟩ := reads_of_turnAt here made
    cases reads with
    | loop opened inside closed later =>
      rw [tree, ← Turn.render_lift, ihBody inside, ihRest later, Node.render_loop_lift]
  | case7 cursor limit within plain condition accepted resume made ihAccepted ihRest =>
    obtain ⟨start, others, -, reads, tree⟩ := reads_of_turnAt here made
    cases reads with
    | when opened inside closed later =>
      rw [tree, ← Turn.render_lift, ihAccepted inside, ihRest later, ← Node.render_choice_lift,
        Node.renderAll, Guarded.answer]
  | case8 cursor limit within plain condition accepted rejected resume made ihAccepted ihRejected
      ihRest =>
    obtain ⟨start, others, -, reads, tree⟩ := reads_of_turnAt here made
    cases reads with
    | choice opened inside divided otherwise closed later =>
      rw [tree, ← Turn.render_lift, ihAccepted inside, ihRejected otherwise, ihRest later,
        Node.render_choice_lift]
  | case9 cursor limit outside =>
    have nothing : utf8Len piece = 0 := by
      have width := here.stop_eq
      omega
    rw [String.utf8Len_eq_zero.mp nothing, parse_nil, Node.renderAll, Guarded.answer]

end Template

/-- **Rendering ends, and cuts a text only where it can be cut.**  Going through a text from its
first byte to its last one always has an answer, and it is the outcome of rendering the text.  No cut
is made outside of the text, from a later to an earlier offset or inside of a character, since there
is no answer when one is.

From any range of the text there is a turn.  It moves the cursor forward in the range and the ranges
that are gone through after it are shorter.  The search for a tag and the search for the end of a
block always have an answer too.  A tag that is found stands wholly in the range, and the parts and
tags of a block stand there one behind the other. -/
theorem Session.render_by_offsets (host : Host) (session : Session) (text : String) :
    (Template.renderBetween host session.strict text.toList 0 text.utf8ByteSize session.scope).map
        (fun outcome => (outcome.result.map String.ofList,
          { session with scope := outcome.scope })) =
      some (session.render host text).value ∧
    (∀ start stop, (slice? text.toList start stop).isSome ↔
      start ≤ stop ∧ stop ≤ text.utf8ByteSize ∧
        (⟨start⟩ : String.Pos.Raw).IsValid text ∧ (⟨stop⟩ : String.Pos.Raw).IsValid text) ∧
    ∀ cursor limit, IsSlice text.toList cursor limit →
      (∃ turn, turnAt text.toList cursor limit = some turn ∧
        ∀ move ∈ turn.move, move.Advances text.toList cursor limit ∧
          ∀ span ∈ move.ranges limit, span.stop - span.start < limit - cursor) ∧
      (∃ found, nextTagAt text.toList cursor limit = some found ∧
        ∀ tag ∈ found, tag.Advances text.toList cursor limit) ∧
      ∀ kind depth, ∃ found,
        BlockAt.find text.toList kind limit depth none cursor = some found ∧
          ∀ block ∈ found, block.Advances text.toList cursor limit := by
  refine ⟨?_, fun start stop => Text.isSome_slice?.trans Text.isSlice_toList_iff, ?_⟩
  · have whole := Between.whole text.toList
    rw [String.utf8Len_toList] at whole
    rw [Template.renderBetween_of_between host session.strict whole]
    rfl
  · intro cursor limit range
    refine ⟨?_, ?_, fun kind depth => BlockAt.exists_find range kind depth⟩
    · obtain ⟨turn, made⟩ := Template.exists_turnAt range
      refine ⟨turn, made, fun move present => ?_⟩
      have advances := Template.advances_of_turnAt made move present
      exact ⟨advances, advances.shorter⟩
    · obtain ⟨found, next⟩ := Template.exists_nextTagAt range
      refine ⟨found, next, fun tag present => ?_⟩
      rw [Option.mem_def] at present
      exact Template.TagAt.advances_of_nextTagAt (present ▸ next)

end Stencil
