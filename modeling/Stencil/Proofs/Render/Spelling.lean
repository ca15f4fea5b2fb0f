import Stencil.Proofs.Render.Loop
import Stencil.Proofs.Text.Grapheme

/-!
# A loop over a text spells it

A loop over a text visits its grapheme clusters, each as a text of its own.  They make up
the text and none of them is empty, so the loop that shows its variable shows the text
again, whatever characters it has, and only over the empty text it has nothing to visit
(`Session.render_spelled`).

Where one element ends and the next one starts is decided by the rules for the characters
on either side, wherever in the text they stand.
-/

set_option autoImplicit false

namespace Stencil

open Template (Node IsPath LoopTag closeTag loopHeaderText eachText)
open Text (graphemes graphemeClass IsBoundary)

/-- The value of a cluster. -/
def Value.ofCluster (cluster : List Char) : Value :=
  .string (.ofList cluster)

theorem Template.noEnd_loopHeaderText {name source : List Char} (isName : IsName name)
    (isPath : IsPath source) (noEndInName : ¬ closeTag.OccursIn name)
    (noEndInSource : ¬ closeTag.OccursIn source) :
    ¬ closeTag.OccursIn (loopHeaderText name source) := by
  let tag : LoopTag := ⟨name, source, isName, isPath, noEndInName, noEndInSource⟩
  exact fun occurs => tag.noEnd_inner (occurs.trans (List.suffix_append _ _).isInfix)

namespace Session

/-- The loop that shows its variable shows a text cluster by cluster. -/
theorem value_render_eachText_string (host : Host) (session : Session) {source : List Char}
    (isPath : IsPath source) (noTagEnd : ¬ closeTag.OccursIn source) {text : String}
    (found : (session.scope.resolve host (.ofList source)).value.1 = some (.string text)) :
    (session.render host (.ofList (eachText ['c'] source))).value.1 = .ok text := by
  have visited : host.elements? (.string text) =
      some ((graphemes text.toList).map Value.ofCluster) := rfl
  have isThis : ¬ Path.isThis ['c'] := by decide
  have display (cluster : List Char) : host.display (.ofCluster cluster) = .ofList cluster := rfl
  have shown : ((graphemes text.toList).map Value.ofCluster).flatMap
      (fun element => (host.display element).toList) = text.toList := by
    simp only [List.flatMap_map, display, String.toList_ofList, List.flatMap_id',
      Text.flatten_graphemes]
  rw [value_render, String.toList_ofList,
    Template.parse_eachText (by decide) isPath (by decide) (by decide)
      (Template.noEnd_loopHeaderText (by decide) isPath (by decide) noTagEnd),
    Node.outcome_renderAll_singleton, Node.outcome_render_loop,
    outcome_forEach_eachBody host session.strict (by decide) (by decide), found,
    Option.bind_some, visited, Option.getD_some]
  simp only [if_neg isThis, shown, Outcome.ok, Except.map, String.ofList_toList]

/-- **A loop over a text spells it.**  Where a path that a header can have leads to a text, the
elements that a loop over it visits are texts that are not empty and make up the text in order, and
there are none only if it is empty.  So the loop that shows its variable renders to the text.  No
element ends inside the end of a line or before a mark or joiner of a character that is no control,
and regional indicators are taken in pairs from where the first of them starts an element. -/
theorem render_spelled (host : Host) (session : Session) {source : List Char}
    (isPath : IsPath source) (noTagEnd : ¬ closeTag.OccursIn source) {text : String}
    (found : (session.scope.resolve host (.ofList source)).value.1 = some (.string text)) :
    let clusters := graphemes text.toList
    host.elements? (.string text) = some (clusters.map Value.ofCluster) ∧
      (∀ cluster ∈ clusters, cluster ≠ []) ∧ clusters.flatten = text.toList ∧
      (clusters = [] ↔ text = "") ∧
      (session.render host (.ofList (eachText ['c'] source))).value.1 = .ok text ∧
      (∀ before after, text.toList = before ++ '\r' :: '\n' :: after →
        ¬ IsBoundary (before ++ ['\r']) ('\n' :: after)) ∧
      (∀ before character mark after, text.toList = before ++ character :: mark :: after →
        graphemeClass character ∉ [.carriageReturn, .lineFeed, .control] →
          graphemeClass mark ∈ [.extend, .joiner] →
            ¬ IsBoundary (before ++ [character]) (mark :: after)) ∧
      ∀ before run after, text.toList = before ++ run ++ after →
        (∀ character ∈ run, graphemeClass character = .regional) →
          IsBoundary before (run ++ after) → ∀ place, 0 < place → place < run.length →
            (IsBoundary (before ++ run.take place) (run.drop place ++ after) ↔
              place % 2 = 0) := by
  intro clusters
  have whole : clusters.flatten = text.toList := Text.flatten_graphemes text.toList
  refine ⟨rfl, fun _ member => Text.ne_nil_of_mem_graphemes member, whole, ⟨fun none => ?_, ?_⟩,
    value_render_eachText_string host session isPath noTagEnd found,
    fun before after _ => Text.not_isBoundary_newline before after,
    fun before _ _ after _ solid marks => Text.not_isBoundary_mark solid marks before after,
    fun before run after _ flags starts place positive inside =>
      Text.isBoundary_flags_iff flags starts positive inside⟩
  · rw [none, List.flatten_nil] at whole
    exact String.toList_eq_nil_iff.mp whole.symm
  · rintro rfl
    rfl

/-- The end of a line, a letter with an accent and an emoji joined to another one are three elements,
and three regional indicators are two more. -/
theorem render_spelled_flags :
    let text := "\r\ne\u0301👩\u200d👩🇩🇪🇫"
    let session := new .empty (.map [("log", .map [("s", .string text)])])
    let source := "log.s".toList
    (IsPath source ∧ ¬ closeTag.OccursIn source ∧
      (session.scope.resolve .empty (.ofList source)).value.1 = some (.string text)) ∧
    (session.render .empty (.ofList (eachText ['c'] source))).value.1 = .ok text ∧
    (graphemes text.toList).map String.ofList =
      ["\r\n", "e\u0301", "👩\u200d👩", "🇩🇪", "🇫"] ∧
    IsBoundary "\r\ne\u0301👩\u200d👩🇩🇪".toList "🇫".toList := by
  intro text session source
  have isPath : IsPath source :=
    (Template.isPath_of_readPath (by decide : Template.readPath source = some (source, []))).2
  have noTagEnd : ¬ closeTag.OccursIn source := by decide
  have found : (session.scope.resolve .empty (.ofList source)).value.1 = some (.string text) := by
    decide +kernel
  obtain ⟨-, -, -, -, rendered, -, -, flags⟩ :=
    render_spelled .empty session isPath noTagEnd found
  have starts : IsBoundary "\r\ne\u0301👩\u200d👩".toList ("🇩🇪🇫".toList ++ []) := by
    refine ⟨["\r\n".toList, "e\u0301".toList, "👩\u200d👩".toList], ?_, by decide +kernel⟩
    exact List.isPrefixOf_iff_prefix.mp (by decide +kernel)
  have regional : ∀ character ∈ "🇩🇪🇫".toList, graphemeClass character = .regional := by
    have every : ("🇩🇪🇫".toList.all (graphemeClass · = .regional)) = true := by decide +kernel
    exact fun character member => of_decide_eq_true (List.all_eq_true.mp every character member)
  refine ⟨⟨isPath, noTagEnd, found⟩, rendered, by decide +kernel, ?_⟩
  exact (flags _ "🇩🇪🇫".toList [] (by decide +kernel) regional starts 2 (by decide)
    (by decide)).mpr rfl

end Session

end Stencil
