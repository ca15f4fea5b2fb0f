import Mathlib.Data.List.TakeWhile
import Stencil.Template.Header

/-!
# The grammar of headers

Names, paths and literals are described here by what they are made of, without
regard to how they are read: a name is a run of name characters, a path is one or
more names with a point between each two, and a literal is a text between two
quotes of one kind or a run without separators that does not start with a quoted
text.

Reading is complete for the grammar: a header written from these parts with
single spaces between them is read as those parts
(`LoopHeader.read_headerText`, `readCondition_headerText`).
-/

set_option autoImplicit false

namespace Stencil.Template

/-! ## Names, paths and literals -/

/-- The texts that are names. -/
def IsName (text : List Char) : Prop :=
  text ≠ [] ∧ ∀ character ∈ text, isNameChar character = true

instance (text : List Char) : Decidable (IsName text) :=
  have : Decidable (∀ character ∈ text, isNameChar character = true) :=
    List.decidableBAll (fun character => isNameChar character = true) text
  instDecidableAnd

/-- The texts that are paths. -/
inductive IsPath : List Char → Prop
  | name {name : List Char} (isName : IsName name) : IsPath name
  | step {name rest : List Char} (isName : IsName name) (isPath : IsPath rest) :
      IsPath (name ++ '.' :: rest)

/-- Whether a character encloses literals. -/
def IsQuote (character : Char) : Prop :=
  character = '"' ∨ character = '\''

/-- The texts that are literals, each with the text it stands for. -/
inductive IsLiteral : List Char → List Char → Prop
  | quoted {quote : Char} {text : List Char} (isQuote : IsQuote quote) (closed : quote ∉ text) :
      IsLiteral (quote :: text ++ [quote]) text
  | bare {text : List Char} (nonempty : text ≠ [])
      (solid : ∀ character ∈ text, isSeparator character = false)
      (unquoted : ∀ quote rest, text = quote :: rest → IsQuote quote → quote ∉ rest) :
      IsLiteral text text

theorem isSeparator_space : isSeparator ' ' = true := rfl

theorem isNameChar_ne_point {character : Char} (isName : isNameChar character = true) :
    character ≠ '.' := by
  rintro rfl
  exact absurd isName (by decide)

theorem isSeparator_of_isNameChar {character : Char} (isName : isNameChar character = true) :
    isSeparator character = false := by
  simp only [isNameChar, Bool.and_eq_true, Bool.not_eq_true'] at isName
  exact isName.1.1.1.1

theorem isNameChar_of_isSeparator {character : Char} (separates : isSeparator character = true) :
    isNameChar character = false := by
  simp [isNameChar, separates]

/-- A path starts with a character of a name. -/
theorem IsPath.exists_cons {path : List Char} (isPath : IsPath path) :
    ∃ first rest, path = first :: rest ∧ isNameChar first = true := by
  cases isPath with
  | @name name isName =>
    obtain ⟨first, rest, rfl⟩ := List.exists_cons_of_ne_nil isName.1
    exact ⟨first, rest, rfl, isName.2 first (List.mem_cons_self ..)⟩
  | @step name rest isName isPath =>
    obtain ⟨first, others, rfl⟩ := List.exists_cons_of_ne_nil isName.1
    exact ⟨first, others ++ '.' :: rest, rfl, isName.2 first (List.mem_cons_self ..)⟩

/-- A literal starts with a character that separates nothing. -/
theorem IsLiteral.exists_cons {written value : List Char} (isLiteral : IsLiteral written value) :
    ∃ first rest, written = first :: rest ∧ isSeparator first = false := by
  cases isLiteral with
  | @quoted quote text isQuote closed =>
    refine ⟨quote, value ++ [quote], rfl, ?_⟩
    rcases isQuote with rfl | rfl <;> decide
  | bare nonempty solid unquoted =>
    obtain ⟨first, rest, rfl⟩ := List.exists_cons_of_ne_nil nonempty
    exact ⟨first, rest, rfl, solid first (List.mem_cons_self ..)⟩

/-! ## Reading the parts -/

theorem readName_append {name : List Char} {next : Char} (isName : IsName name)
    (separates : isSeparator next = true) (rest : List Char) :
    readName (name ++ next :: rest) = some (name, next :: rest) := by
  have stops : isNameChar next = false := isNameChar_of_isSeparator separates
  have taken : (name ++ next :: rest).takeWhile isNameChar = name := by
    rw [List.takeWhile_append_of_pos isName.2, List.takeWhile_cons_of_neg (by simp [stops]),
      List.append_nil]
  have left : (name ++ next :: rest).dropWhile isNameChar = next :: rest := by
    rw [List.dropWhile_append_of_pos isName.2, List.dropWhile_cons_of_neg (by simp [stops])]
  simp [readName, taken, left, isName.1]

/-- A character that is no point continues a path if it can stand in a name. -/
theorem readPathRest_cons {character : Char} (noPoint : character ≠ '.') (rest : List Char) :
    readPathRest (character :: rest) =
      if isNameChar character then (character :: (readPathRest rest).1, (readPathRest rest).2)
      else ([], character :: rest) := by
  rw [readPathRest.eq_def]
  split
  · next same => exact absurd (List.cons.inj same).1 noPoint
  · next same =>
    obtain ⟨rfl, rfl⟩ := List.cons.inj same
    rfl
  · next same => cases same

/-- A point continues a path if a character of a name follows. -/
theorem readPathRest_point {first : Char} (isName : isNameChar first = true) (rest : List Char) :
    readPathRest ('.' :: first :: rest) =
      ('.' :: first :: (readPathRest rest).1, (readPathRest rest).2) := by
  rw [readPathRest.eq_def]
  exact if_pos isName

theorem readPathRest_append {name : List Char} (isName : ∀ character ∈ name, isNameChar character)
    (rest : List Char) :
    readPathRest (name ++ rest) = (name ++ (readPathRest rest).1, (readPathRest rest).2) := by
  induction name with
  | nil => rfl
  | cons first tail ih =>
    have here : isNameChar first = true := isName first (List.mem_cons_self ..)
    have inner := ih fun character member => isName character (List.mem_cons_of_mem _ member)
    rw [List.cons_append, readPathRest_cons (isNameChar_ne_point here), if_pos here, inner]
    rfl

/-- A text that no path in front of it goes on with. -/
def EndsPath (rest : List Char) : Prop :=
  ∀ next ∈ rest.head?, isNameChar next = false ∧ next ≠ '.'

theorem endsPath_of_isSeparator {next : Char} (separates : isSeparator next = true)
    (rest : List Char) : EndsPath (next :: rest) := by
  rintro _ ⟨rfl⟩
  refine ⟨isNameChar_of_isSeparator separates, ?_⟩
  rintro rfl
  exact absurd separates (by decide)

theorem readPath_append {path rest : List Char} (isPath : IsPath path) (ends : EndsPath rest) :
    readPath (path ++ rest) = some (path, rest) := by
  have stops : readPathRest rest = ([], rest) := by
    cases rest with
    | nil => rfl
    | cons next rest =>
      obtain ⟨noName, noPoint⟩ := ends next rfl
      rw [readPathRest_cons noPoint, noName]
      rfl
  have whole : ∀ {path : List Char}, IsPath path → ∃ first others, path = first :: others ∧
      isNameChar first = true ∧ readPathRest (others ++ rest) = (others, rest) := by
    intro path isPath
    induction isPath with
    | @name name isName =>
      obtain ⟨first, others, rfl⟩ := List.exists_cons_of_ne_nil isName.1
      refine ⟨first, others, rfl, isName.2 first (List.mem_cons_self ..), ?_⟩
      rw [readPathRest_append fun character member =>
        isName.2 character (List.mem_cons_of_mem _ member), stops]
      simp
    | @step name _ isName _ ih =>
      obtain ⟨second, more, rfl, isNext, read⟩ := ih
      obtain ⟨first, others, rfl⟩ := List.exists_cons_of_ne_nil isName.1
      refine ⟨first, others ++ '.' :: second :: more, rfl,
        isName.2 first (List.mem_cons_self ..), ?_⟩
      rw [List.append_assoc, readPathRest_append fun character member =>
        isName.2 character (List.mem_cons_of_mem _ member)]
      rw [List.cons_append, List.cons_append, readPathRest_point isNext, read]
  obtain ⟨first, others, rfl, isName, read⟩ := whole isPath
  simp [readPath, isName, read]

theorem readOperator_append (operator : Operator) (rest : List Char) :
    readOperator (operator.text.toList ++ ' ' :: rest) = some (operator, ' ' :: rest) := by
  cases operator <;> rfl

/-- A literal is read up to the separators behind it. -/
theorem readValue_append {written value behind : List Char} (isLiteral : IsLiteral written value)
    (blank : ∀ character ∈ behind, isSeparator character = true) :
    readValue (written ++ behind) = some (value, behind) := by
  cases isLiteral with
  | @quoted quote text isQuote closed =>
    have inside : ∀ character ∈ value, (character != quote) = true := by
      intro character member
      simp only [bne_iff_ne]
      rintro rfl
      exact closed member
    have quoted : readQuoted (quote :: value ++ [quote] ++ behind) = some (value, behind) := by
      simp only [List.cons_append, readQuoted]
      rw [if_pos (show quote = '"' ∨ quote = '\'' from isQuote), List.append_assoc,
        List.dropWhile_append_of_pos inside, List.takeWhile_append_of_pos inside]
      simp
    rw [readValue, quoted]
  | bare nonempty solid unquoted =>
    have noQuotes : readQuoted (written ++ behind) = none := by
      obtain ⟨first, rest, rfl⟩ := List.exists_cons_of_ne_nil nonempty
      simp only [List.cons_append, readQuoted]
      split
      · next isQuote =>
        have missing : first ∉ rest ++ behind := by
          rw [List.mem_append, not_or]
          refine ⟨unquoted first rest rfl isQuote, fun member => ?_⟩
          have solidFirst := solid first (List.mem_cons_self ..)
          rw [blank first member] at solidFirst
          cases solidFirst
        have passed : (rest ++ behind).dropWhile (· != first) = [] := by
          rw [List.dropWhile_eq_nil_iff]
          intro character member
          simp only [bne_iff_ne]
          rintro rfl
          exact missing member
        rw [passed]
      · rfl
    have solid' : ∀ character ∈ written, (!isSeparator character) = true := by
      simpa using solid
    have stops : behind.takeWhile (!isSeparator ·) = [] ∧
        behind.dropWhile (!isSeparator ·) = behind := by
      cases behind with
      | nil => exact ⟨rfl, rfl⟩
      | cons next behind => simp [blank next (List.mem_cons_self ..)]
    have taken : (written ++ behind).takeWhile (!isSeparator ·) = written := by
      rw [List.takeWhile_append_of_pos solid', stops.1, List.append_nil]
    have left : (written ++ behind).dropWhile (!isSeparator ·) = behind := by
      rw [List.dropWhile_append_of_pos solid', stops.2]
    rw [readValue, noQuotes]
    simp [taken, left, nonempty]

/-! ## Reading whole headers -/

/-- A part is read behind a space. -/
theorem require_space {α : Type} (part : HeaderPart) {read : List Char → Option α}
    {first : Char} {rest : List Char} {result : α} (solid : isSeparator first = false)
    (found : read (first :: rest) = some result) :
    require part read (' ' :: first :: rest) = .ok result := by
  have skipped : skipSeparators (' ' :: first :: rest) = first :: rest := by
    rw [skipSeparators, List.dropWhile_cons_of_pos (by decide),
      List.dropWhile_cons_of_neg (by simp [solid])]
  rw [require, skipped, found]

/-- The header of a loop as it is written. -/
def loopHeaderText (name source : List Char) : List Char :=
  ' ' :: name ++ ' ' :: 'i' :: 'n' :: ' ' :: source ++ [' ']

/-- The header of a condition as it is written. -/
def conditionHeaderText (path : List Char) (operator : Operator) (literal : List Char) :
    List Char :=
  ' ' :: path ++ ' ' :: operator.text.toList ++ ' ' :: literal ++ [' ']

/-- A loop is read as its name and its path. -/
theorem LoopHeader.read_headerText {name source : List Char} (isName : IsName name)
    (isPath : IsPath source) :
    LoopHeader.read (loopHeaderText name source) = .ok ⟨.ofList name, .ofList source⟩ := by
  have named : require .name readName (loopHeaderText name source) =
      .ok (name, ' ' :: 'i' :: 'n' :: ' ' :: source ++ [' ']) := by
    have read := readName_append isName isSeparator_space ('i' :: 'n' :: ' ' :: source ++ [' '])
    obtain ⟨first, others, rfl⟩ := List.exists_cons_of_ne_nil isName.1
    have solid := isSeparator_of_isNameChar (isName.2 first (List.mem_cons_self ..))
    simpa [loopHeaderText] using require_space .name solid read
  have worded : require .word readIn (' ' :: 'i' :: 'n' :: ' ' :: source ++ [' ']) =
      .ok (' ' :: source ++ [' ']) := require_space .word (by decide) rfl
  have sourced : require .path readPath (' ' :: source ++ [' ']) = .ok (source, [' ']) := by
    have read := readPath_append isPath (endsPath_of_isSeparator isSeparator_space [])
    obtain ⟨first, others, rfl, isName⟩ := isPath.exists_cons
    exact require_space .path (isSeparator_of_isNameChar isName) read
  have ended : require .ending readEnding [' '] = .ok () := rfl
  simp only [LoopHeader.read, named, worded, sourced, ended, bind, Except.bind, pure, Except.pure]

/-- A condition is read as its path, its operator and the text its literal stands for. -/
theorem readCondition_headerText {path written value : List Char} (operator : Operator)
    (isPath : IsPath path) (isLiteral : IsLiteral written value) :
    readCondition (conditionHeaderText path operator written) =
      .ok ⟨.ofList path, operator, .ofList value⟩ := by
  have pathed : require .path readPath (conditionHeaderText path operator written) =
      .ok (path, ' ' :: operator.text.toList ++ ' ' :: written ++ [' ']) := by
    have read := readPath_append isPath (endsPath_of_isSeparator isSeparator_space
      (operator.text.toList ++ ' ' :: written ++ [' ']))
    obtain ⟨first, others, rfl, isName⟩ := isPath.exists_cons
    have solid := isSeparator_of_isNameChar isName
    simpa [conditionHeaderText] using require_space .path solid read
  have compared : require .operator readOperator
      (' ' :: operator.text.toList ++ ' ' :: written ++ [' ']) =
      .ok (operator, ' ' :: written ++ [' ']) := by
    have read := readOperator_append operator (written ++ [' '])
    cases operator <;> exact require_space .operator (by decide) read
  have valued : require .value readValue (' ' :: written ++ [' ']) = .ok (value, [' ']) := by
    have blank : ∀ character ∈ [' '], isSeparator character = true := by simp [isSeparator_space]
    have read := readValue_append isLiteral blank
    obtain ⟨first, others, rfl, solid⟩ := isLiteral.exists_cons
    exact require_space .value solid read
  have ended : require .ending readEnding [' '] = .ok () := rfl
  simp only [readCondition, pathed, compared, valued, ended, bind, Except.bind, pure, Except.pure]

end Stencil.Template
