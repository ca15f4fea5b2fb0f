import Stencil.Proofs.Render.Evaluation
import Stencil.Proofs.Scope.Bindings
import Stencil.Proofs.Template.Condition
import Stencil.Proofs.Value.Comparison

/-!
# What a condition shows of its branches

A condition around two plain texts shows the first one if the value at its path
satisfies the comparison, and the second one if it does not.  Only where conditions are
strict it can fail, and only because the literal denotes nothing of the kind of the
value (`Session.render_choiceText`).

The branches may end in the middle of a mark: what would continue it is the mark of the
tag behind the branch, which the branch does not reach.  The path, though, has to be one
that a header can have, and no mark in it may end the tag.  Scopes resolve other texts
too, and a condition on one of those cannot be read
(`Session.render_choiceText_unreadable`).
-/

set_option autoImplicit false

namespace Stencil

/-! ## The condition and its nodes -/

namespace Template

/-- Text in which nothing opens. -/
def OpensNothing (text : List Char) : Prop :=
  ¬ openVariable.OccursIn text ∧ ¬ openTag.OccursIn text

instance (text : List Char) : Decidable (OpensNothing text) :=
  inferInstanceAs (Decidable (_ ∧ _))

/-- The text of a condition around two branches. -/
def choiceText (path : List Char) (operator : Operator) (written accepted rejected : List Char) :
    List Char :=
  tagText (keywordInner .condition (conditionHeaderText path operator written)) ++
    (accepted ++ (bareTag .otherwise ++ (rejected ++ bareTag .endCondition)))

example : String.ofList (choiceText ['n'] .atLeast "'1'".toList ['a'] ['b']) =
    "\x7b% if n >= '1' %\x7da\x7b% else %\x7db\x7b% endif %\x7d" := by decide

/-- No mark that opens a tag stands across the start of a tag. -/
theorem not_straddles_bareTag (text : List Char) (keyword : Keyword) (rest : List Char) :
    ¬ openTag.Straddles text (bareTag keyword ++ rest) := by
  rintro ⟨-, start⟩
  have brace : (bareTag keyword ++ rest).head? = some '\x7b' := rfl
  rw [brace] at start
  exact absurd (Option.some.inj start) (by decide)

/-- A condition is divided at its middle tag and ends at its closing tag if nothing opens in its
branches. -/
theorem closeBlock_of_opensNothing {accepted rejected : List Char}
    (plainAccepted : OpensNothing accepted) (plainRejected : OpensNothing rejected) :
    closeBlock conditionBlock 0
        (accepted ++ (bareTag .otherwise ++ (rejected ++ bareTag .endCondition))) =
      some ⟨accepted, some rejected, []⟩ := by
  have otherwise := Tag.keyword_bare Keyword.isMeaningful_otherwise
  have ending := Tag.keyword_bare Keyword.isMeaningful_endCondition
  have ended : closeBlock conditionBlock.undivided 0 (bareTag .endCondition) =
      some ⟨[], none, []⟩ := by
    have closes : closeBlock conditionBlock.undivided 0 (bareTag .endCondition ++ []) =
        some ⟨[], none, []⟩ :=
      closeBlock_closing (noEnd_bare Keyword.isMeaningful_endCondition) (by decide) ending []
    rwa [List.append_nil] at closes
  have seam := not_straddles_bareTag rejected .endCondition []
  rw [List.append_nil] at seam
  rw [closeBlock_append_of_not_occursIn conditionBlock 0 plainAccepted.2
      (not_straddles_bareTag accepted .otherwise _), bareTag,
    closeBlock_dividing (noEnd_bare Keyword.isMeaningful_otherwise) (by rw [otherwise]; decide)
      (by rw [otherwise]; decide) (by rw [otherwise]; rfl),
    closeBlock_append_of_not_occursIn conditionBlock.undivided 0 plainRejected.2 seam, ended]
  simp [Block.prepend]

theorem parse_choiceText (tag : ConditionTag) {accepted rejected : List Char}
    (plainAccepted : OpensNothing accepted) (plainRejected : OpensNothing rejected) :
    parse (choiceText tag.path tag.operator tag.literal accepted rejected) =
      [.choice tag.condition (accepted.map .text) (rejected.map .text)] := by
  have closed := closeBlock_of_opensNothing plainAccepted plainRejected
  have read := tag.parse_print closed rfl
  rwa [Option.getD_some, parse_of_plain plainAccepted.1 plainAccepted.2,
    parse_of_plain plainRejected.1 plainRejected.2, parse_nil] at read

/-! ## Quoted literals -/

theorem noEnd_quoted {text : List Char} (noEnd : ¬ closeTag.OccursIn text) :
    ¬ closeTag.OccursIn ('"' :: text ++ ['"']) := by
  have opened : ¬ closeTag.OccursIn (['"'] ++ text) := by
    refine Text.not_occursIn_append (Text.Mark.not_occursIn_singleton _ _) noEnd ?_
    rintro ⟨last, -⟩
    exact absurd (Option.some.inj last) (by decide)
  refine Text.not_occursIn_append opened (Text.Mark.not_occursIn_singleton _ _) ?_
  rintro ⟨-, start⟩
  exact absurd (Option.some.inj start) (by decide)

end Template

/-- The text of one of these values can stand between double quotes in a tag, if that of a string
can. -/
theorem quotable_display {value : Value} (scalar : value.IsScalar)
    (plain : ∀ text, value = .string text →
      '"' ∉ text.toList ∧ ¬ Template.closeTag.OccursIn text.toList)
    (objectText : Handle → String) :
    '"' ∉ (value.display objectText).toList ∧
      ¬ Template.closeTag.OccursIn (value.display objectText).toList := by
  by_cases isString : ∃ text, value = .string text
  · obtain ⟨text, rfl⟩ := isString
    exact plain text rfl
  · have noString : ∀ text, value ≠ .string text := fun text same => isString ⟨text, same⟩
    have absent {character : Char} (other : ¬ (character = '-' ∨ character.isAlphanum = true)) :
        character ∉ (value.display objectText).toList :=
      fun member => other (Value.plain_display scalar noString member)
    refine ⟨absent (by decide), fun occurs => ?_⟩
    exact absent (by decide) (occurs.subset List.mem_cons_self)

open Template (Node ConditionTag IsPath IsLiteral OpensNothing choiceText closeTag)

/-! ## Rendering it -/

namespace Session

/-- The verdict on a condition picks one of its branches. -/
theorem result_render_choiceText (host : Host) (session : Session) (tag : ConditionTag)
    {accepted rejected : List Char} (plainAccepted : OpensNothing accepted)
    (plainRejected : OpensNothing rejected) :
    (session.render host (.ofList (choiceText tag.path tag.operator tag.literal accepted
        rejected))).value.1 =
      (tag.condition.verdict session.strict
        (session.scope.resolve host (.ofList tag.path)).value.1).map fun holds =>
          .ofList (if holds then accepted else rejected) := by
  rw [value_render, String.toList_ofList, Template.parse_choiceText tag plainAccepted plainRejected,
    Node.outcome_renderAll_singleton, Node.outcome_render_choice, Condition.outcome_check]
  simp only [ConditionTag.condition]
  cases Condition.verdict session.strict
      ⟨.ofList tag.path, tag.operator, .ofList tag.value⟩
      (session.scope.resolve host (.ofList tag.path)).value.1 with
  | error error => rfl
  | ok holds =>
    cases holds <;> simp only [Node.outcome_renderAll_text] <;> rfl

/-- **A condition decides the true comparison.**  Take a path that headers can have, without the
mark that ends a tag, and an integer, a truth value or a string that it leads to.  Take two texts in
which nothing opens.

With any operator and any literal, the condition on the path around the two texts shows the first
one if the value satisfies the operator and the literal.  If it does not, the condition shows the
second one, unless the literal does not fit the value and conditions are strict: then it fails with
the literal and the kind of the value.

A value is equal to its own text between double quotes, provided no double quote and no end of a tag
is in that text, which only a string can have. -/
theorem render_choiceText (host : Host) (session : Session) {path : List Char}
    (isPath : IsPath path) (noEndInPath : ¬ closeTag.OccursIn path) {value : Value}
    (leads : (session.scope.resolve host (.ofList path)).value.1 = some value)
    (scalar : value.IsScalar) {accepted rejected : List Char}
    (plainAccepted : OpensNothing accepted) (plainRejected : OpensNothing rejected) :
    let shows (operator : Operator) (written : List Char) : Except Error String :=
      (session.render host (.ofList (choiceText path operator written accepted rejected))).value.1
    (∀ (operator : Operator) (written text : List Char), IsLiteral written text →
      ¬ closeTag.OccursIn written →
      let literal := String.ofList text
      (value.Satisfies operator literal → shows operator written = .ok (.ofList accepted)) ∧
      (¬ value.Satisfies operator literal → (session.strict = true → value.Fits literal) →
        shows operator written = .ok (.ofList rejected)) ∧
      (¬ value.Fits literal → session.strict = true →
        shows operator written = .error (.condition literal (host.kind value)))) ∧
    ((∀ text, value = .string text → '"' ∉ text.toList ∧ ¬ closeTag.OccursIn text.toList) →
      shows .equals ('"' :: (host.display value).toList ++ ['"']) = .ok (.ofList accepted)) := by
  intro shows
  have decides (operator : Operator) (written text : List Char) (isLiteral : IsLiteral written text)
      (noEnd : ¬ closeTag.OccursIn written) : shows operator written =
        (Condition.verdict session.strict ⟨.ofList path, operator, .ofList text⟩ (some value)).map
          fun holds => .ofList (if holds then accepted else rejected) := by
    have chosen := result_render_choiceText host session
      ⟨path, operator, written, text, isPath, isLiteral, noEndInPath, noEnd⟩ plainAccepted
      plainRejected
    dsimp only [ConditionTag.condition] at chosen
    rwa [leads] at chosen
  constructor
  · intro operator written text isLiteral noEnd literal
    rw [decides operator written text isLiteral noEnd]
    refine ⟨fun satisfies => ?_, fun fails passes => ?_, fun misfit strict => ?_⟩
    · rw [Condition.verdict_of_satisfies satisfies]
      rfl
    · rw [Condition.verdict_of_not_satisfies scalar fails passes]
      rfl
    · rw [strict, Condition.verdict_of_not_fits scalar misfit host.typeName]
      rfl
  · intro plain
    obtain ⟨noQuote, noEnd⟩ := quotable_display scalar plain host.objectText
    have satisfies : value.Satisfies .equals (.ofList (host.display value).toList) := by
      rw [String.ofList_toList]
      exact Value.satisfies_display scalar host.objectText
    refine (decides .equals _ _ (.quoted (.inl rfl) noQuote) (Template.noEnd_quoted noEnd)).trans ?_
    exact congrArg (Except.map _) (Condition.verdict_of_satisfies satisfies)

/-- Conditions on the least integer of 64 bits and on a string that ends as a mark starts, where
conditions are strict and the branches break off within marks. -/
theorem render_choiceText_least :
    let least : Value := .int (-9223372036854775808)
    let session : Session :=
      ⟨.new .empty (.map [("n", least), ("log", .map [("s", .string "é%")])]), true⟩
    let accepted := "a\x7b".toList
    let rejected := "\x7db".toList
    let shows (path : String) (operator : Operator) (written : String) : Except Error String :=
      (session.render .empty (.ofList (choiceText path.toList operator written.toList accepted
        rejected))).value.1
    (∀ path ∈ ["n", "THIS.log.s"], IsPath path.toList ∧ ¬ closeTag.OccursIn path.toList) ∧
    OpensNothing accepted ∧ OpensNothing rejected ∧
    shows "n" .equals "'-009223372036854775808'" = .ok "a\x7b" ∧
    shows "n" .greater "-9223372036854775808" = .ok "\x7db" ∧
    shows "n" .less "9223372036854775808" = .error (.condition "9223372036854775808" .int) ∧
    shows "THIS.log.s" .equals "\"é%\"" = .ok "a\x7b" := by
  intro least session accepted rejected shows
  have fits : ∀ path ∈ ["n", "THIS.log.s"],
      IsPath path.toList ∧ ¬ closeTag.OccursIn path.toList := by
    have reads : ∀ path ∈ ["n", "THIS.log.s"],
        Template.readPath path.toList = some (path.toList, []) ∧
          ¬ closeTag.OccursIn path.toList := by decide
    exact fun path member => (reads path member).imp_left fun read =>
      (Template.isPath_of_readPath read).2
  have plain : OpensNothing accepted ∧ OpensNothing rejected := by decide
  have decides (path : String) (member : path ∈ ["n", "THIS.log.s"]) {value : Value}
      (scalar : value.IsScalar)
      (leads : (session.scope.resolve .empty (.ofList path.toList)).value.1 = some value) :=
    render_choiceText .empty session (fits path member).1 (fits path member).2 leads scalar
      plain.1 plain.2
  obtain ⟨number, -⟩ := decides "n" (by simp) (.int (-9223372036854775808)) rfl
  obtain ⟨-, own⟩ := decides "THIS.log.s" (by simp) (.string "é%") rfl
  simp only [accepted, rejected, String.ofList_toList] at number own
  have quoted : '"' :: (Host.empty.display (.string "é%")).toList ++ ['"'] = "\"é%\"".toList := by
    decide
  rw [quoted] at own
  have bare (text : List Char) (solid : text ≠ [] ∧ text.all (fun character =>
      Template.isSeparator character = false ∧ character ≠ '"' ∧ character ≠ '\'') = true) :
      IsLiteral text text := by
    have each (character : Char) (member : character ∈ text) :=
      of_decide_eq_true (List.all_eq_true.mp solid.2 character member)
    refine .bare solid.1 (fun character member => (each character member).1) ?_
    rintro quote rest rfl isQuote
    have noQuote := (each quote List.mem_cons_self).2
    exact (isQuote.elim noQuote.1 noQuote.2).elim
  -- The bound is denoted by a text with leading zeros too, and is not greater than itself.
  have bound : Numeric.IsInteger "-9223372036854775808".toList (-9223372036854775808) :=
    Numeric.readInteger_eq_some_iff.mp (by decide +kernel)
  have zeros : (Value.int (-9223372036854775808)).Satisfies .equals "-009223372036854775808" :=
    .int (Numeric.readInteger_eq_some_iff.mp (by decide +kernel)) (by decide) rfl
  have notGreater :
      ¬ (Value.int (-9223372036854775808)).Satisfies .greater "-9223372036854775808" := by
    rintro (⟨denotes, -, relates⟩ | _ | _)
    obtain rfl := bound.unique denotes
    exact absurd relates (Int.lt_irrefl _)
  have outside : ¬ (Value.int (-9223372036854775808)).Fits "9223372036854775808" := by
    rintro (⟨denotes, small⟩ | _ | _)
    exact Numeric.readInt64_eq_none_iff.mp (by decide +kernel) _ denotes small
  refine ⟨fits, plain.1, plain.2, ?_, ?_, ?_, ?_⟩
  · have shown := number .equals _ "-009223372036854775808".toList (.quoted (.inr rfl) (by decide))
      (by decide)
    rw [String.ofList_toList] at shown
    exact shown.1 zeros
  · have shown := number .greater _ "-9223372036854775808".toList (bare _ (by decide))
      (by decide)
    rw [String.ofList_toList] at shown
    exact shown.2.1 notGreater fun _ => .int bound (by decide)
  · have shown := number .less _ "9223372036854775808".toList (bare _ (by decide))
      (by decide)
    rw [String.ofList_toList] at shown
    exact shown.2.2 outside rfl
  · exact own (by rintro text ⟨⟩; decide)

/-- Two texts that lead to a value and that no condition can have: a path in which the mark that
ends a tag stands, and a text that is no path because of the space in it. -/
theorem render_choiceText_unreadable :
    let session := new .empty (.map [("a%\x7db", .int 1), ("a b", .int 1)])
    let shows (path : String) : Except Error String :=
      (session.render .empty (.ofList (choiceText path.toList .equals ['1'] ['A'] ['B']))).value.1
    (∀ path ∈ ["a%\x7db", "a b"],
      (session.scope.resolve .empty path).value.1 = some (.int 1)) ∧
    IsPath "a%\x7db".toList ∧ IsLiteral ['1'] ['1'] ∧ ¬ closeTag.OccursIn ['1'] ∧
    OpensNothing ['A'] ∧ OpensNothing ['B'] ∧ (Value.int 1).Satisfies .equals "1" ∧
    ∀ path ∈ ["a%\x7db", "a b"], shows path ≠ .ok "A" := by
  intro session shows
  have isPath : IsPath "a%\x7db".toList := (Template.isPath_of_readPath
    (by decide : Template.readPath "a%\x7db".toList = some ("a%\x7db".toList, []))).2
  have isLiteral : IsLiteral ['1'] ['1'] :=
    .bare (by decide) (List.forall_mem_singleton.mpr (by decide))
      (by rintro quote rest ⟨rfl, rfl⟩ isQuote; decide)
  have satisfies : (Value.int 1).Satisfies .equals "1" :=
    .int (Numeric.readInteger_eq_some_iff.mp (by decide +kernel)) (by decide) rfl
  exact ⟨by decide +kernel, isPath, isLiteral, by decide, by decide, by decide, satisfies,
    by decide +kernel⟩

end Session

end Stencil
