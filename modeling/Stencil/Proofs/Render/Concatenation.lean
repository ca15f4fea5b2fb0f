import Stencil.Proofs.Render.Outcome
import Stencil.Proofs.Template.Concatenation

/-!
# Rendering two texts written one after the other

A text that has been rendered to its end has no flaw outside of its blocks, since
rendering would have stopped there (`Template.Node.sound_of_ok`).  Its tree is
therefore not changed by text written behind it, and the session goes on from where
the first text left it: the second text is rendered in the scope that the first one
leaves, and fails, if it does, with the very same error
(`Session.value_render_append`).
-/

set_option autoImplicit false

namespace Stencil

open Template (Node Seamless Sound parse)

/-- What is rendered to its end has no malformed part, those inside of blocks left aside. -/
theorem Template.Node.sound_of_ok {host : Host} {strict : Bool} {nodes : List Node}
    {scope : Scope} {output : List Char}
    (succeeds : ((renderAll host strict nodes).outcome scope).result = .ok output) :
    Sound nodes := by
  induction nodes generalizing scope output with
  | nil => exact fun flaw tail member => absurd member List.not_mem_nil
  | cons node nodes ih =>
    rw [renderAll] at succeeds
    obtain ⟨before, middle, others, first, second⟩ := Rendering.ok_of_append succeeds
    intro flaw tail member
    cases member with
    | head =>
      rw [outcome_render_fault] at first
      cases first
    | tail _ later => exact ih second flaw tail later

/-- **Rendering goes on where it stopped.**  If a text renders to its end, and no opening mark
stands across the seam, then the text with another one behind it renders to the output of the first
and that of the second in the session that the first one leaves, or fails as the second does
there. -/
theorem Session.value_render_append {host : Host} {session after : Session}
    {first second output : String} (seamless : Seamless first.toList second.toList)
    (succeeds : (session.render host first).value = (.ok output, after)) :
    (session.render host (first ++ second)).value =
      ((after.render host second).value.1.map (output ++ ·),
        (after.render host second).value.2) := by
  rw [value_render] at succeeds
  cases rendered : (Node.renderAll host session.strict (parse first.toList)).outcome
      session.scope with
  | mk result scope =>
    rw [rendered] at succeeds
    cases result with
    | error error => cases succeeds
    | ok before =>
      obtain ⟨shown, left⟩ := Prod.mk.inj succeeds
      obtain rfl : String.ofList before = output := Except.ok.inj shown
      obtain rfl := left
      have sound := Node.sound_of_ok (congrArg Outcome.result rendered)
      have read := Template.parse_append sound seamless
      rw [value_render, value_render, String.toList_append, read,
        Node.outcome_renderAll_append, Rendering.outcome_append_of_ok rendered]
      cases (Node.renderAll host session.strict (parse second.toList)).outcome scope with
      | mk result last =>
        cases result <;> simp [Except.map]

/-- A loop and a brace that is left over, and behind them a brace that does not make it a mark and a
variable that is not closed. -/
theorem Session.value_render_append_lone_brace :
    let first := "\x7b% foreach x in this %\x7d<\x7b\x7b x \x7d\x7d>\x7b% endfor %\x7d\x7b"
    let second := "\x7d\x7b\x7b y"
    let session := new .empty (.list [.string "a", .string "b"])
    let after := (session.render .empty first).value.2
    Seamless first.toList second.toList ∧
    (session.render .empty first).value = (.ok "<a><b>\x7b", after) ∧
    (session.render .empty (first ++ second)).value =
      ((after.render .empty second).value.1.map ("<a><b>\x7b" ++ ·),
        (after.render .empty second).value.2) ∧
    (after.render .empty second).value.1 =
      .error (.malformed "expected `\x7d\x7d`" "\x7b\x7b y") := by
  intro first second session after
  have seamless : Seamless first.toList second.toList := by
    constructor <;>
    · rintro ⟨-, starts⟩
      exact absurd starts (by decide)
  have succeeds : (session.render .empty first).value = (.ok "<a><b>\x7b", after) :=
    Prod.ext (by decide +kernel) rfl
  exact ⟨seamless, succeeds, value_render_append seamless succeeds, by decide +kernel⟩

end Stencil
