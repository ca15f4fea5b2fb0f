import Stencil.Proofs.Text.Offset
import Stencil.Template.Header

/-!
# Quotes by offsets

The literal of a condition, read as it is written and then cut out between its
quotes.  Between two quotes there is always room for the cut, so the condition is
the one that `readCondition` gives (`readConditionAt_eq`).
-/

set_option autoImplicit false

namespace Stencil.Template

open Text (Between slice?)
open String (utf8Len utf8Len_cons utf8Len_append)

/-! ## Written values -/

/-- The value in quotes a text starts with, quotes included, and the text after it. -/
def writtenQuoted : List Char → Option (List Char × List Char)
  | [] => none
  | quote :: rest =>
    if quote = '"' ∨ quote = '\'' then
      match rest.dropWhile (· != quote) with
      | [] => none
      | closing :: after => some (quote :: (rest.takeWhile (· != quote) ++ [closing]), after)
    else none

/-- The value a text starts with as it is written, whether it has quotes, and the text after it. -/
def writtenValue (text : List Char) : Option (List Char × Bool × List Char) :=
  match writtenQuoted text with
  | some (written, after) => some (written, true, after)
  | none =>
    let bare := text.takeWhile (!isSeparator ·)
    if bare.isEmpty then none else some (bare, false, text.dropWhile (!isSeparator ·))

/-- A value without its quotes. -/
def unquote (written : List Char) (quoted : Bool) : Option (List Char) :=
  if quoted then slice? written 1 (utf8Len written - 1) else some written

/-- A quote is one byte. -/
theorem utf8Size_quote {quote : Char} (isQuote : quote = '"' ∨ quote = '\'') :
    quote.utf8Size = 1 := by
  rcases isQuote with rfl | rfl <;> rfl

/-- What stands between two quotes can be cut out. -/
theorem unquote_quoted {quote : Char} (isQuote : quote = '"' ∨ quote = '\'')
    (value : List Char) : unquote (quote :: (value ++ [quote])) true = some value := by
  have inside := (Between.whole ([quote] ++ value ++ [quote])).part
  have first : 0 + utf8Len [quote] = 1 := by simp [utf8Size_quote isQuote]
  have last : 1 + utf8Len value = utf8Len (quote :: (value ++ [quote])) - 1 := by
    simp only [utf8Len_cons, utf8Len_append, String.utf8Len_nil, utf8Size_quote isQuote]
    omega
  rw [first, last] at inside
  exact inside.slice?

/-- What is read between quotes is what is written, without its quotes. -/
theorem rel_readQuoted (text : List Char) :
    Option.Rel (fun written read => unquote written.1 true = some read.1 ∧ written.2 = read.2)
      (writtenQuoted text) (readQuoted text) := by
  cases text with
  | nil => exact .none
  | cons quote rest =>
    simp only [writtenQuoted, readQuoted]
    split
    · next isQuote =>
      cases behind : rest.dropWhile (· != quote) with
      | nil => exact .none
      | cons closing after =>
        -- What is left by dropping all other characters starts with the quote.
        have same : closing = quote := by
          have stops := List.head?_dropWhile_not (· != quote) rest
          simpa [behind] using stops
        subst same
        exact .some ⟨unquote_quoted isQuote _, rfl⟩
    · exact .none

/-- A value is what is written, without its quotes if it has any. -/
theorem rel_readValue (text : List Char) :
    Option.Rel (fun written read => unquote written.1 written.2.1 = some read.1 ∧
        written.2.2 = read.2)
      (writtenValue text) (readValue text) := by
  unfold writtenValue readValue
  have quoted := rel_readQuoted text
  generalize writtenQuoted text = written at quoted
  generalize readQuoted text = read at quoted
  cases quoted with
  | some agrees => exact .some agrees
  | none =>
    dsimp only
    split
    · exact .none
    · exact .some ⟨rfl, rfl⟩

/-- A value is asked for and missing in the same places, written or read. -/
theorem require_value (text : List Char) :
    (∃ error, require .value writtenValue text = .error error ∧
      require .value readValue text = .error error) ∨
    ∃ literal quoted value after, require .value writtenValue text = .ok (literal, quoted, after) ∧
      require .value readValue text = .ok (value, after) ∧ unquote literal quoted = some value := by
  have value := rel_readValue (skipSeparators text)
  unfold require
  generalize writtenValue (skipSeparators text) = written at value
  generalize readValue (skipSeparators text) = read at value
  cases value with
  | none => exact .inl ⟨_, rfl, rfl⟩
  | @some written read agrees =>
    obtain ⟨literal, quoted, after⟩ := written
    obtain ⟨value, after'⟩ := read
    obtain ⟨cut, rfl⟩ := agrees
    exact .inr ⟨literal, quoted, value, after, rfl, rfl, cut⟩

/-! ## Conditions -/

/-- The parts of a condition as they are written. -/
structure WrittenCondition where
  path : List Char
  operator : Operator
  literal : List Char
  /-- Whether the literal has quotes. -/
  quoted : Bool
  deriving DecidableEq, Repr

namespace WrittenCondition

/-- The header of a condition, nothing cut out of it. -/
def read (text : List Char) : Except HeaderError WrittenCondition := do
  let (path, afterPath) ← require .path readPath text
  let (operator, afterOperator) ← require .operator readOperator afterPath
  let (literal, quoted, afterLiteral) ← require .value writtenValue afterOperator
  require .ending readEnding afterLiteral
  return ⟨path, operator, literal, quoted⟩

/-- The condition with its literal cut out. -/
def resolve (written : WrittenCondition) : Option Condition :=
  (unquote written.literal written.quoted).map fun literal =>
    ⟨.ofList written.path, written.operator, .ofList literal⟩

end WrittenCondition

/-- The header of a condition, its literal cut out of it.  There is no answer when it cannot be. -/
def readConditionAt (text : List Char) : Option (Except HeaderError Condition) :=
  match WrittenCondition.read text with
  | .error error => some (.error error)
  | .ok written => written.resolve.map .ok

/-- **Cutting literals out.**  The literal of a condition can always be cut out of its header, and
the condition is then the one that is read without cutting. -/
theorem readConditionAt_eq (text : List Char) :
    readConditionAt text = some (readCondition text) := by
  unfold readConditionAt WrittenCondition.read readCondition
  simp only [bind, Except.bind]
  cases require .path readPath text with
  | error error => rfl
  | ok found =>
    obtain ⟨path, afterPath⟩ := found
    dsimp only
    cases require .operator readOperator afterPath with
    | error error => rfl
    | ok found =>
      obtain ⟨operator, afterOperator⟩ := found
      dsimp only
      rcases require_value afterOperator with ⟨error, written, read⟩ |
        ⟨literal, quoted, value, after, written, read, cut⟩
      · rw [written, read]
      · rw [written, read]
        dsimp only
        cases require .ending readEnding after with
        | error error => rfl
        | ok ended =>
          simp only [pure, Except.pure, WrittenCondition.resolve, cut, Option.map_some]

end Stencil.Template
