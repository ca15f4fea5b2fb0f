import Stencil.Proofs.Render.Evaluation
import Stencil.Proofs.Scope.Bindings
import Stencil.Proofs.Scope.Lookup
import Stencil.Proofs.Template.Condition

/-!
# What a loop shows of its elements

The shortest loop that shows something has its own variable as its body.  It shows the
elements one after the other: between the header that binds the name and the variable
that reads it, the name passes through the reader of headers, the reader of tags and the
reader of paths, and comes out as it went in (`Session.render_eachText`).

Two sorts of names do not.  The word for the value itself, in any case, is never looked up
as a name, so a loop over it shows the value of the scope once for each element.  And
headers are divided at four separators while paths are trimmed of all blanks, so a name
may start or end with a blank that is gone when the variable is read
(`Session.render_eachText_shadowed`).
-/

set_option autoImplicit false

namespace Stencil

open Text (HasSolidEnds)

/-! ## The loop and its nodes -/

namespace Template

/-- The text of a loop over a path whose body is the variable of the loop. -/
def eachText (name source : List Char) : List Char :=
  tagText (keywordInner .loop (loopHeaderText name source)) ++
    (openVariable.text ++ (' ' :: name ++ [' ']) ++ closeVariable.text) ++ bareTag .endLoop

example : String.ofList (eachText ['x'] ['a', '.', 'b']) =
    "\x7b% foreach x in a.b %\x7d\x7b\x7b x \x7d\x7d\x7b% endfor %\x7d" := by decide

/-- The variable of a loop as it is written in the body. -/
def eachBody (name : List Char) : List Node :=
  [.variable (.ofList (' ' :: name ++ [' ']))]

theorem parse_eachText {name source : List Char} (isName : IsName name) (isPath : IsPath source)
    (noVariableEnd : ¬ closeVariable.OccursIn name) (noTag : ¬ openTag.OccursIn name)
    (noTagEnd : ¬ closeTag.OccursIn (loopHeaderText name source)) :
    parse (eachText name source) = [.loop ⟨.ofList name, .ofList source⟩ (eachBody name)] := by
  have inName : name <:+: loopHeaderText name source :=
    ⟨[' '], ' ' :: 'i' :: 'n' :: ' ' :: source ++ [' '], by simp [loopHeaderText]⟩
  have inSource : source <:+: loopHeaderText name source :=
    ⟨' ' :: name ++ [' ', 'i', 'n', ' '], [' '], by simp [loopHeaderText]⟩
  let tag : LoopTag := ⟨name, source, isName, isPath, fun occurs => noTagEnd (occurs.trans inName),
    fun occurs => noTagEnd (occurs.trans inSource)⟩
  let own : PathText := ⟨name, noVariableEnd, noTag⟩
  have written : Piece.printAll [.loop tag [.variable own]] = eachText name source := by
    simp only [Piece.printAll, Piece.print, LoopTag.inner, tag, own, List.append_nil, eachText]
  have read := Piece.parse_printAll [.loop tag [.variable own]] []
  rw [written, List.append_nil, parse_nil, List.append_nil] at read
  rw [read]
  simp only [Piece.nodesAll, Piece.nodes, LoopTag.header, tag, own, List.append_nil, eachBody]

end Template

open Template (Node eachText eachBody)

/-! ## Rendering it -/

section Each

variable (host : Host) (strict : Bool) {name : List Char} (noPoint : '.' ∉ name)
  (solid : HasSolidEnds name)
include noPoint solid

/-- A name just bound shows the value bound to it, unless it is the word for the value itself. -/
theorem Scope.value_display_push (scope : Scope) (element : Value) :
    ((scope.push (.ofList name) element).display host (.ofList name)).value =
      (host.display (if Path.isThis name then scope.value else element),
        scope.push (.ofList name) element) := by
  have found : (scope.push (.ofList name) element).local? (.ofList name) = some element :=
    if_pos rfl
  rw [value_display, value_resolve, String.toList_ofList, Text.trim_of_hasSolidEnds solid,
    Path.ofText_of_point_not_mem noPoint]
  by_cases isThis : Path.isThis name = true
  · rw [if_pos isThis, if_pos isThis]
    rfl
  · rw [if_neg isThis, if_neg isThis, follow, found]
    rfl

theorem outcome_forEach_eachBody (elements : List Value) (scope : Scope) :
    (Rendering.forEach (.ofList name) (Node.renderAll host strict (eachBody name))
      elements).outcome scope =
      .ok (elements.flatMap fun element =>
        (host.display (if Path.isThis name then scope.value else element)).toList) scope := by
  induction elements with
  | nil => rfl
  | cons element elements ih =>
    have shown : (Node.renderAll host strict (eachBody name)).outcome
        (scope.push (.ofList name) element) =
        .ok (host.display (if Path.isThis name then scope.value else element)).toList
          (scope.push (.ofList name) element) := by
      rw [eachBody, Node.outcome_renderAll_singleton, Node.outcome_render_variable,
        Template.display_spaced, Scope.value_display_push host noPoint solid]
    have bound : (Rendering.binding (.ofList name) element
        (Node.renderAll host strict (eachBody name))).outcome scope =
        .ok (host.display (if Path.isThis name then scope.value else element)).toList scope := by
      rw [Rendering.outcome_binding, shown]
      simp only [Outcome.ok, Scope.pop_push]
    rw [Rendering.forEach, Rendering.outcome_append_of_ok bound, ih, List.flatMap_cons]
    rfl

end Each

namespace Session

open Template (IsName IsPath closeVariable openTag closeTag loopHeaderText)

theorem ofList_flatMap_toList {α : Type} (shown : α → String) (elements : List α) :
    String.ofList (elements.flatMap fun element => (shown element).toList) =
      String.join (elements.map shown) := by
  rw [← String.toList_inj, String.toList_ofList, String.toList_join, List.flatMap_map]

/-- **A loop shows its elements.**  Take a loop with a name and a path that headers can have, where
the name neither starts nor ends with a blank and no mark stands where it would end a tag or a
variable too early or start a tag.  With the variable of the loop as its body it renders to the
texts of the elements of the value at the path, in order, and to nothing if there is no such value
or it has no elements.  Where the name is the word for the value itself, each element shows the
value of the scope instead. -/
theorem render_eachText (host : Host) (session : Session) {name source : List Char}
    (isName : IsName name) (isPath : IsPath source)
    (noVariableEnd : ¬ closeVariable.OccursIn name) (noTag : ¬ openTag.OccursIn name)
    (noTagEnd : ¬ closeTag.OccursIn (loopHeaderText name source)) (solid : HasSolidEnds name) :
    let resolved := (session.scope.resolve host (.ofList source)).value
    let elements := (resolved.1.bind host.elements?).getD []
    (session.render host (.ofList (eachText name source))).value =
      (.ok (String.join (elements.map fun element =>
          host.display (if Path.isThis name then session.scope.value else element))),
        { session with scope := resolved.2 }) := by
  intro resolved elements
  have noPoint : '.' ∉ name :=
    fun member => Template.isNameChar_ne_point (isName.2 '.' member) rfl
  have agrees := Scope.agrees_resolve host session.scope (.ofList source)
  rw [value_render, String.toList_ofList,
    Template.parse_eachText isName isPath noVariableEnd noTag noTagEnd,
    Node.outcome_renderAll_singleton, Node.outcome_render_loop,
    outcome_forEach_eachBody host session.strict noPoint solid, agrees.value]
  simp only [Outcome.ok, Except.map, ofList_flatMap_toList]
  rfl

/-- A loop over a list inside a map, with a name that is bound already and with the word for the
value itself. -/
theorem render_eachText_bound :
    let items : Value := .list [.int 1, .list [.bool true, .null], .string "x"]
    let root : Value := .map [("log", .map [("n", items)])]
    let session : Session := ⟨(Scope.new .empty root).push "n" (.int 5), true⟩
    let source := "THIS.log.n".toList
    IsPath source ∧ (∀ name ∈ [['n'], "This".toList], IsName name ∧
      ¬ closeVariable.OccursIn name ∧ ¬ openTag.OccursIn name ∧
      ¬ closeTag.OccursIn (loopHeaderText name source) ∧ HasSolidEnds name) ∧
    (session.render .empty (.ofList (eachText ['n'] source))).value.1 = .ok "1[true, ]x" ∧
    (session.render .empty (.ofList (eachText "This".toList source))).value.1 =
      .ok "[object][object][object]" := by
  intro items root session source
  have isPath : IsPath source :=
    (Template.isPath_of_readPath (by decide : Template.readPath source = some (source, []))).2
  have fits : ∀ name ∈ [['n'], "This".toList], IsName name ∧
      ¬ closeVariable.OccursIn name ∧ ¬ openTag.OccursIn name ∧
      ¬ closeTag.OccursIn (loopHeaderText name source) ∧ HasSolidEnds name := by
    intro name member
    simp only [List.mem_cons, List.not_mem_nil, or_false] at member
    rcases member with rfl | rfl
    all_goals
      exact ⟨by decide, by decide, by decide, by decide, by decide⟩
  have shows (name : List Char) (member : name ∈ [['n'], "This".toList]) := by
    obtain ⟨isName, noVariableEnd, noTag, noTagEnd, solid⟩ := fits name member
    exact congrArg Prod.fst
      (render_eachText .empty session isName isPath noVariableEnd noTag noTagEnd solid)
  exact ⟨isPath, fits, (shows _ (by simp)).trans (by decide +kernel),
    (shows _ (by simp)).trans (by decide +kernel)⟩

/-- Two names that headers can have and that do not show the elements: the word for the value
itself, and a name that starts with a blank that separates nothing in a header. -/
theorem render_eachText_shadowed :
    let session := new .empty (.map [("items", .list [.string "a", .string "b"])])
    let source := "items".toList
    let elements :=
      ((session.scope.resolve .empty (.ofList source)).value.1.bind Host.empty.elements?).getD []
    String.join (elements.map Host.empty.display) = "ab" ∧ IsPath source ∧
    (∀ name ∈ ["this".toList, "\u00a0x".toList], IsName name ∧
      ¬ closeVariable.OccursIn name ∧ ¬ openTag.OccursIn name ∧
      ¬ closeTag.OccursIn (loopHeaderText name source)) ∧
    (session.render .empty (.ofList (eachText "this".toList source))).value.1 =
      .ok "[object][object]" ∧
    (session.render .empty (.ofList (eachText "\u00a0x".toList source))).value.1 = .ok "" := by
  intro session source elements
  have isPath : IsPath source :=
    (Template.isPath_of_readPath (by decide : Template.readPath source = some (source, []))).2
  refine ⟨by decide +kernel, isPath, ?_, by decide +kernel, by decide +kernel⟩
  intro name member
  simp only [List.mem_cons, List.not_mem_nil, or_false] at member
  rcases member with rfl | rfl
  all_goals exact ⟨by decide, by decide, by decide, by decide⟩

end Session

end Stencil
