import Stencil.Proofs.Template.Header

/-!
# The language of conditions

The header of a condition is taken apart into seven pieces: a path, an operator and a
literal, and the separators before each of them and behind the last.  What the pieces
may be is said here without regard to how they are read (`ConditionPieces.Spells`).

Two rules make the pieces unique.  An operator of two characters is taken wherever one
stands, also where it leaves no literal behind it.  A literal that starts with a quote ends
at the next quote of its kind if there is one, and is a run of characters without
separators otherwise.

A header is read as a condition exactly if it is spelled by some pieces, and no header is
spelled by two (`readCondition_iff_spells`).
-/

set_option autoImplicit false

namespace Stencil.Template

/-! ## Separators -/

/-- The texts that separate the parts of a header. -/
def Separates (text : List Char) : Prop :=
  ∀ character ∈ text, isSeparator character = true

theorem skipSeparators_append {skipped text : List Char} (separates : Separates skipped)
    (solid : ∀ first ∈ text.head?, isSeparator first = false) :
    skipSeparators (skipped ++ text) = text := by
  rw [skipSeparators, List.dropWhile_append_of_pos separates]
  cases text with
  | nil => rfl
  | cons first rest => exact List.dropWhile_cons_of_neg (by simp [solid first rfl])

theorem exists_skipSeparators (text : List Char) :
    ∃ skipped, Separates skipped ∧ text = skipped ++ skipSeparators text :=
  ⟨text.takeWhile isSeparator, fun _ member => List.mem_takeWhile_imp member,
    List.takeWhile_append_dropWhile.symm⟩

theorem separates_of_skipSeparators {text : List Char} (ends : skipSeparators text = []) :
    Separates text :=
  List.dropWhile_eq_nil_iff.mp ends

/-- A part is read behind the separators in front of it. -/
theorem require_eq_ok_iff {α : Type} {part : HeaderPart} {read : List Char → Option α}
    {text : List Char} {result : α} :
    require part read text = .ok result ↔ read (skipSeparators text) = some result := by
  unfold require
  split
  · next found => simp [found]
  · next missing => simp [missing]

theorem readEnding_eq_some_iff {text : List Char} : readEnding text = some () ↔ text = [] := by
  cases text <;> simp [readEnding]

/-! ## What the readers accept -/

/-- What is read behind a name continues it to a path. -/
theorem isPath_append_readPathRest (text : List Char) {name : List Char} (isName : IsName name) :
    IsPath (name ++ (readPathRest text).1) := by
  fun_induction readPathRest text generalizing name with
  | case1 character rest here path after read ih =>
    -- a point and a character of the next name
    rw [read] at ih
    have starts : IsName [character] := ⟨by simp, by simpa using here⟩
    exact .step isName (ih starts)
  | case2 character rest here => simpa using IsPath.name isName
  | case3 character rest other here path after read ih =>
    -- one more character of the same name
    rw [read] at ih
    have longer : IsName (name ++ [character]) := by
      refine ⟨by simp, fun member inside => ?_⟩
      rcases List.mem_append.mp inside with before | last
      · exact isName.2 member before
      · rwa [List.mem_singleton.mp last]
    simpa using ih longer
  | case4 character rest other here => simpa using IsPath.name isName
  | case5 => simpa using IsPath.name isName

theorem readPathRest_append_eq (text : List Char) :
    (readPathRest text).1 ++ (readPathRest text).2 = text := by
  fun_induction readPathRest text with
  | case1 character rest here path after read ih => simpa [read] using ih
  | case3 character rest other here path after read ih => simpa [read] using ih
  | _ => rfl

theorem isPath_of_readPath {text path rest : List Char} (read : readPath text = some (path, rest)) :
    text = path ++ rest ∧ IsPath path := by
  cases text with
  | nil => cases read
  | cons first others =>
    rw [readPath] at read
    split at read
    · next inName =>
      have starts : IsName [first] := ⟨by simp, by simpa using inName⟩
      obtain ⟨rfl, rfl⟩ : first :: (readPathRest others).1 = path ∧
          (readPathRest others).2 = rest := by simpa using read
      refine ⟨congrArg (first :: ·) (readPathRest_append_eq others).symm, ?_⟩
      exact isPath_append_readPathRest others starts
    · cases read

/-- Where an operator of a single character is read, no longer one stands. -/
theorem longest_of_not_equals {first : Char} {rest : List Char}
    (single : ∀ others, rest = '=' :: others → False) (longer : Operator)
    (long : longer.text.length = 2) (starts : longer.text.toList <+: first :: rest) : False := by
  obtain ⟨others, whole⟩ := starts
  cases longer with
  | less => cases long
  | greater => cases long
  | atMost => exact single others (List.cons.inj whole).2.symm
  | atLeast => exact single others (List.cons.inj whole).2.symm
  | equals => exact single others (List.cons.inj whole).2.symm

theorem eq_of_long_prefix {left right : Operator} {text : List Char} (longLeft : left.text.length = 2)
    (longRight : right.text.length = 2) (startsLeft : left.text.toList <+: text)
    (startsRight : right.text.toList <+: text) : left = right := by
  have same : left.text.toList = right.text.toList :=
    (List.prefix_of_prefix_length_le startsLeft startsRight (by
      simp only [String.length_toList]; omega)).eq_of_length (by
      simp only [String.length_toList]; omega)
  revert same
  cases left <;> cases right <;> decide

/-- An operator of two characters is read wherever one stands, and one of a single character
elsewhere. -/
theorem readOperator_eq_some_iff {text rest : List Char} {operator : Operator} :
    readOperator text = some (operator, rest) ↔ text = operator.text.toList ++ rest ∧
      ∀ longer : Operator, longer.text.length = 2 → longer.text.toList <+: text →
        longer = operator := by
  constructor
  · fun_cases readOperator text with
    | case1 others | case2 others | case3 others =>
      rintro ⟨⟩
      exact ⟨rfl, fun longer long starts => eq_of_long_prefix long rfl starts ⟨rest, rfl⟩⟩
    | case4 others single | case5 others single =>
      rintro ⟨⟩
      exact ⟨rfl, fun longer long starts => (longest_of_not_equals single longer long starts).elim⟩
    | case6 => rintro ⟨⟩
  · rintro ⟨rfl, longest⟩
    cases operator with
    | atMost => rfl
    | atLeast => rfl
    | equals => rfl
    | less =>
      have single : ∀ others, rest = '=' :: others → False := by
        rintro others rfl
        cases longest .atMost rfl ⟨others, rfl⟩
      exact readOperator.eq_4 rest single
    | greater =>
      have single : ∀ others, rest = '=' :: others → False := by
        rintro others rfl
        cases longest .atLeast rfl ⟨others, rfl⟩
      exact readOperator.eq_5 rest single

/-- An operator starts with a character that is neither a separator nor part of a path. -/
theorem exists_cons_of_operator (operator : Operator) :
    ∃ first rest, operator.text.toList = first :: rest ∧ isSeparator first = false ∧
      isNameChar first = false ∧ first ≠ '.' := by
  cases operator <;> exact ⟨_, _, rfl, by decide⟩

/-- A text that starts with a quote that stands in it again. -/
def StartsQuoted (text : List Char) : Prop :=
  ∃ quote rest, text = quote :: rest ∧ IsQuote quote ∧ quote ∈ rest

theorem readQuoted_eq_none_iff {text : List Char} : readQuoted text = none ↔ ¬ StartsQuoted text := by
  cases text with
  | nil => simp [readQuoted, StartsQuoted]
  | cons quote rest =>
    rw [readQuoted]
    split
    · next isQuote =>
      cases behind : rest.dropWhile (· != quote) with
      | nil =>
        simp only [true_iff]
        rintro ⟨quote', rest', same, -, again⟩
        obtain ⟨rfl, rfl⟩ := List.cons.inj same
        simpa using List.dropWhile_eq_nil_iff.mp behind quote again
      | cons closing after =>
        simp only [reduceCtorEq, false_iff, not_not]
        refine ⟨quote, rest, rfl, isQuote, ?_⟩
        by_contra missing
        have passed : rest.dropWhile (· != quote) = [] := by
          rw [List.dropWhile_eq_nil_iff]
          intro character member
          simp only [bne_iff_ne]
          rintro rfl
          exact missing member
        rw [passed] at behind
        cases behind
    · next noQuote =>
      simp only [true_iff]
      rintro ⟨quote', rest', same, isQuote, -⟩
      obtain ⟨rfl, rfl⟩ := List.cons.inj same
      exact noQuote isQuote

theorem exists_of_readQuoted {text literal rest : List Char}
    (read : readQuoted text = some (literal, rest)) :
    ∃ quote, IsQuote quote ∧ quote ∉ literal ∧ text = quote :: literal ++ [quote] ++ rest := by
  cases text with
  | nil => cases read
  | cons quote others =>
    rw [readQuoted] at read
    split at read
    · next isQuote =>
      cases behind : others.dropWhile (· != quote) with
      | nil => simp [behind] at read
      | cons closing after =>
        obtain ⟨rfl, rfl⟩ : others.takeWhile (· != quote) = literal ∧ after = rest := by
          simpa [behind] using read
        -- what is left by dropping all other characters starts with the quote
        have same : closing = quote := by
          have stops := List.head?_dropWhile_not (· != quote) others
          simpa [behind] using stops
        subst same
        refine ⟨closing, isQuote, fun member => ?_, ?_⟩
        · simpa using List.mem_takeWhile_imp member
        · have parts := List.takeWhile_append_dropWhile (p := (· != closing)) (l := others)
          rw [behind] at parts
          simpa using parts.symm
    · cases read

/-- How a literal is written at the start of a text. -/
inductive WritesLiteral (text : List Char) : List Char → List Char → Prop
  /-- Between two quotes of a kind that does not stand in it. -/
  | quoted {quote : Char} {literal : List Char} (isQuote : IsQuote quote)
      (closed : quote ∉ literal) : WritesLiteral text (quote :: literal ++ [quote]) literal
  /-- As it is, where no quoted text starts. -/
  | bare {literal : List Char} (unquoted : ¬ StartsQuoted text) (nonempty : literal ≠ [])
      (solid : ∀ character ∈ literal, isSeparator character = false) :
      WritesLiteral text literal literal

theorem WritesLiteral.isLiteral {written literal behind : List Char}
    (writes : WritesLiteral (written ++ behind) written literal) : IsLiteral written literal := by
  cases writes with
  | quoted isQuote closed => exact .quoted isQuote closed
  | bare unquoted nonempty solid =>
    refine .bare nonempty solid ?_
    rintro quote rest rfl isQuote again
    exact unquoted ⟨quote, rest ++ behind, rfl, isQuote, List.mem_append_left _ again⟩

/-- What is read as a value stands written at the start of the text. -/
theorem exists_writesLiteral_of_readValue {text literal rest : List Char}
    (read : readValue text = some (literal, rest)) :
    ∃ written, text = written ++ rest ∧ WritesLiteral text written literal := by
  rw [readValue] at read
  split at read
  · next quoted found =>
    obtain rfl := Option.some.inj read
    obtain ⟨quote, isQuote, closed, whole⟩ := exists_of_readQuoted found
    exact ⟨_, whole, .quoted isQuote closed⟩
  · next missing =>
    dsimp only at read
    split at read
    · cases read
    · next nonempty =>
      obtain ⟨rfl, rfl⟩ : text.takeWhile (!isSeparator ·) = literal ∧
          text.dropWhile (!isSeparator ·) = rest := by simpa using read
      refine ⟨_, List.takeWhile_append_dropWhile.symm,
        .bare (readQuoted_eq_none_iff.mp missing) (by simpa using nonempty) fun _ member => ?_⟩
      simpa using List.mem_takeWhile_imp member

/-! ## Pieces -/

/-- The pieces of the header of a condition. -/
structure ConditionPieces where
  beforePath : List Char
  path : List Char
  beforeOperator : List Char
  operator : Operator
  beforeLiteral : List Char
  /-- The literal as it is written. -/
  written : List Char
  /-- The text that the literal stands for. -/
  literal : List Char
  behind : List Char

namespace ConditionPieces

/-- The condition that pieces make. -/
def condition (pieces : ConditionPieces) : Condition :=
  ⟨.ofList pieces.path, pieces.operator, .ofList pieces.literal⟩

/-- The text from the literal on. -/
def fromLiteral (pieces : ConditionPieces) : List Char :=
  pieces.written ++ pieces.behind

/-- The text from the operator on. -/
def fromOperator (pieces : ConditionPieces) : List Char :=
  pieces.operator.text.toList ++ (pieces.beforeLiteral ++ pieces.fromLiteral)

/-- The text that pieces make. -/
def text (pieces : ConditionPieces) : List Char :=
  pieces.beforePath ++ (pieces.path ++ (pieces.beforeOperator ++ pieces.fromOperator))

/-- Pieces are those of a condition that a text spells. -/
structure Spells (pieces : ConditionPieces) (text : List Char) : Prop where
  text_eq : text = pieces.text
  beforePath : Separates pieces.beforePath
  isPath : IsPath pieces.path
  beforeOperator : Separates pieces.beforeOperator
  longest : ∀ longer : Operator, longer.text.length = 2 →
    longer.text.toList <+: pieces.fromOperator → longer = pieces.operator
  beforeLiteral : Separates pieces.beforeLiteral
  literal : WritesLiteral pieces.fromLiteral pieces.written pieces.literal
  behind : Separates pieces.behind

namespace Spells

variable {pieces : ConditionPieces} {text : List Char}

/-- A literal starts with no separator. -/
theorem solid (spells : pieces.Spells text) :
    ∀ first ∈ pieces.fromLiteral.head?, isSeparator first = false := by
  obtain ⟨first, others, whole, solid⟩ := spells.literal.isLiteral.exists_cons
  rw [fromLiteral, whole]
  rintro _ ⟨rfl⟩
  exact solid

/-- Neither a separator nor an operator continues a path. -/
theorem endsPath (spells : pieces.Spells text) :
    EndsPath (pieces.beforeOperator ++ pieces.fromOperator) := by
  obtain ⟨first, others, whole, -, noName⟩ := exists_cons_of_operator pieces.operator
  cases blank : pieces.beforeOperator with
  | nil =>
    rw [List.nil_append, fromOperator, whole]
    rintro _ ⟨rfl⟩
    exact noName
  | cons next rest =>
    have separates : isSeparator next = true :=
      spells.beforeOperator next (by simp [blank])
    exact endsPath_of_isSeparator separates _

/-- The parts are read one after the other. -/
theorem reads (spells : pieces.Spells text) :
    require .path readPath text =
        .ok (pieces.path, pieces.beforeOperator ++ pieces.fromOperator) ∧
      require .operator readOperator (pieces.beforeOperator ++ pieces.fromOperator) =
        .ok (pieces.operator, pieces.beforeLiteral ++ pieces.fromLiteral) ∧
      require .value readValue (pieces.beforeLiteral ++ pieces.fromLiteral) =
        .ok (pieces.literal, pieces.behind) ∧
      require .ending readEnding pieces.behind = .ok () := by
  have isLiteral := spells.literal.isLiteral
  simp only [require_eq_ok_iff]
  refine ⟨?_, ?_, ?_, ?_⟩
  · obtain ⟨first, others, whole, isName⟩ := spells.isPath.exists_cons
    rw [spells.text_eq, ConditionPieces.text, skipSeparators_append spells.beforePath]
    · exact readPath_append spells.isPath spells.endsPath
    · rw [whole]
      rintro _ ⟨rfl⟩
      exact isSeparator_of_isNameChar isName
  · obtain ⟨first, others, whole, solid, -⟩ := exists_cons_of_operator pieces.operator
    rw [skipSeparators_append spells.beforeOperator]
    · exact readOperator_eq_some_iff.mpr ⟨rfl, spells.longest⟩
    · rw [fromOperator, whole]
      rintro _ ⟨rfl⟩
      exact solid
  · rw [skipSeparators_append spells.beforeLiteral spells.solid]
    exact readValue_append isLiteral spells.behind
  · rw [skipSeparators, List.dropWhile_eq_nil_iff.mpr spells.behind]
    rfl

/-- A text is spelled by one choice of pieces only. -/
theorem unique {left right : ConditionPieces} (spellsLeft : left.Spells text)
    (spellsRight : right.Spells text) : left = right := by
  obtain ⟨pathLeft, operatorLeft, valueLeft, -⟩ := spellsLeft.reads
  obtain ⟨pathRight, operatorRight, valueRight, -⟩ := spellsRight.reads
  -- Reading gives one answer, so the parts agree, and what is left behind each of them.
  have path := Except.ok.inj (pathLeft.symm.trans pathRight)
  rw [Prod.mk.injEq] at path
  rw [path.2] at operatorLeft
  have operator := Except.ok.inj (operatorLeft.symm.trans operatorRight)
  rw [Prod.mk.injEq] at operator
  rw [operator.2] at valueLeft
  have value := Except.ok.inj (valueLeft.symm.trans valueRight)
  rw [Prod.mk.injEq] at value
  -- The separators are what stands before the parts.
  have fromLiteral : left.fromLiteral = right.fromLiteral := by
    rw [← skipSeparators_append spellsLeft.beforeLiteral spellsLeft.solid, operator.2,
      skipSeparators_append spellsRight.beforeLiteral spellsRight.solid]
  have beforeLiteral := operator.2
  rw [fromLiteral, List.append_cancel_right_eq] at beforeLiteral
  have fromOperator : left.fromOperator = right.fromOperator := by
    rw [ConditionPieces.fromOperator, operator.1, operator.2, ConditionPieces.fromOperator]
  have beforeOperator := path.2
  rw [fromOperator, List.append_cancel_right_eq] at beforeOperator
  have beforePath := spellsLeft.text_eq.symm.trans spellsRight.text_eq
  rw [ConditionPieces.text, ConditionPieces.text, path.1, path.2,
    List.append_cancel_right_eq] at beforePath
  have written := fromLiteral
  rw [ConditionPieces.fromLiteral, ConditionPieces.fromLiteral, value.2,
    List.append_cancel_right_eq] at written
  cases left
  cases right
  simp only [ConditionPieces.mk.injEq]
  exact ⟨beforePath, path.1, beforeOperator, operator.1, beforeLiteral, written, value.1, value.2⟩

end Spells

end ConditionPieces

/-! ## Reading conditions -/

theorem readCondition_eq_ok_iff {text : List Char} {condition : Condition} :
    readCondition text = .ok condition ↔ ∃ path afterPath operator afterOperator literal behind,
      require .path readPath text = .ok (path, afterPath) ∧
      require .operator readOperator afterPath = .ok (operator, afterOperator) ∧
      require .value readValue afterOperator = .ok (literal, behind) ∧
      require .ending readEnding behind = .ok () ∧
      ⟨.ofList path, operator, .ofList literal⟩ = condition := by
  constructor
  · intro read
    simp only [readCondition, bind, Except.bind] at read
    split at read
    · cases read
    next found readsPath =>
    split at read
    · cases read
    next found' readsOperator =>
    split at read
    · cases read
    next found'' readsLiteral =>
    split at read
    · cases read
    next ended ends =>
    exact ⟨_, _, _, _, _, _, readsPath, readsOperator, readsLiteral, ends, Except.ok.inj read⟩
  · rintro ⟨path, afterPath, operator, afterOperator, literal, behind, readsPath, readsOperator,
      readsLiteral, ends, rfl⟩
    simp only [readCondition, readsPath, readsOperator, readsLiteral, ends, bind, Except.bind,
      pure, Except.pure]

/-- What is read as a condition is spelled by pieces of it. -/
theorem exists_spells_of_readCondition {text : List Char} {condition : Condition}
    (read : readCondition text = .ok condition) :
    ∃ pieces : ConditionPieces, pieces.Spells text ∧ pieces.condition = condition := by
  obtain ⟨path, afterPath, operator, afterOperator, literal, behind, readsPath, readsOperator,
    readsLiteral, ends, rfl⟩ := readCondition_eq_ok_iff.mp read
  rw [require_eq_ok_iff] at readsPath readsOperator readsLiteral ends
  obtain ⟨beforePath, separatesPath, whole⟩ := exists_skipSeparators text
  obtain ⟨beforeOperator, separatesOperator, wholePath⟩ := exists_skipSeparators afterPath
  obtain ⟨beforeLiteral, separatesLiteral, wholeOperator⟩ := exists_skipSeparators afterOperator
  obtain ⟨spellsPath, isPath⟩ := isPath_of_readPath readsPath
  obtain ⟨spellsOperator, longest⟩ := readOperator_eq_some_iff.mp readsOperator
  obtain ⟨written, spellsLiteral, writes⟩ := exists_writesLiteral_of_readValue readsLiteral
  have fromOperator : skipSeparators afterPath =
      operator.text.toList ++ (beforeLiteral ++ (written ++ behind)) := by
    rw [spellsOperator, ← spellsLiteral, ← wholeOperator]
  refine ⟨⟨beforePath, path, beforeOperator, operator, beforeLiteral, written, literal, behind⟩,
    ⟨?_, separatesPath, isPath, separatesOperator, ?_, separatesLiteral, ?_, ?_⟩, rfl⟩
  · show text = beforePath ++ (path ++ (beforeOperator ++
      (operator.text.toList ++ (beforeLiteral ++ (written ++ behind)))))
    rw [← fromOperator, ← wholePath, ← spellsPath, ← whole]
  · rw [fromOperator] at longest
    exact longest
  · rw [spellsLiteral] at writes
    exact writes
  · exact separates_of_skipSeparators (readEnding_eq_some_iff.mp ends)

/-- **The language of conditions.**  A text is read as a condition exactly if it is spelled by
pieces of that condition, reading fails exactly if it is spelled by none, and no text is spelled by
two. -/
theorem readCondition_iff_spells (text : List Char) :
    (∀ condition, readCondition text = .ok condition ↔
      ∃ pieces : ConditionPieces, pieces.Spells text ∧ pieces.condition = condition) ∧
    ((∃ error, readCondition text = .error error) ↔
      ¬ ∃ pieces : ConditionPieces, pieces.Spells text) ∧
    ∀ left right : ConditionPieces, left.Spells text → right.Spells text → left = right := by
  have reads (condition : Condition) : readCondition text = .ok condition ↔
      ∃ pieces : ConditionPieces, pieces.Spells text ∧ pieces.condition = condition := by
    refine ⟨exists_spells_of_readCondition, ?_⟩
    rintro ⟨pieces, spells, rfl⟩
    obtain ⟨path, operator, literal, ends⟩ := spells.reads
    exact readCondition_eq_ok_iff.mpr ⟨_, _, _, _, _, _, path, operator, literal, ends, rfl⟩
  refine ⟨reads, ?_, fun left right => ConditionPieces.Spells.unique⟩
  cases answer : readCondition text with
  | ok condition =>
    obtain ⟨pieces, spells, -⟩ := (reads condition).mp answer
    simp only [reduceCtorEq, exists_false, false_iff, not_not]
    exact ⟨pieces, spells⟩
  | error error =>
    simp only [Except.error.injEq, exists_eq', true_iff]
    rintro ⟨pieces, spells⟩
    have read := (reads pieces.condition).mpr ⟨pieces, spells, rfl⟩
    rw [answer] at read
    cases read

/-- The longer operator is taken also where the literal starts with the character that it takes, or
where nothing is left for one. -/
example : readCondition "a<==1".toList = .ok ⟨"a", .atMost, "=1"⟩ ∧
    readCondition "a<=".toList = .error ⟨.value, []⟩ := by decide

end Stencil.Template
