import Stencil.Template.Condition

/-!
# Headers of loops and conditions

What stands between the keyword of a tag and its end.  A loop is written
`NAME in PATH`, a condition `PATH OPERATOR VALUE`.

Spaces, tabs and line ends separate the parts and may be left out where two parts
cannot run together.  A name is a run of other characters without `<`, `>`, `=`
and `.`; a path is one or more names with a point between each two.  The word `in`
ends where the text ends or a separator follows.  Of the operators the longer ones
are tried first.  A value is a text between two quotes of one kind, or else a run
of characters without separators.

Reading goes from left to right and never back.  It fails where a part should
start and does not (`HeaderError`), after any separators there.
-/

set_option autoImplicit false

namespace Stencil.Template

/-! ## Headers and their errors -/

/-- The head of a loop. -/
structure LoopHeader where
  /-- The name that each element is bound to. -/
  name : String
  /-- The path of what is visited. -/
  source : String
  deriving DecidableEq, Repr

/-- A part of a header. -/
inductive HeaderPart
  | name
  | word
  | path
  | operator
  | value
  | ending
  deriving DecidableEq, Repr

/-- The part that is missing in a header, and the text where it should start. -/
structure HeaderError where
  missing : HeaderPart
  position : List Char
  deriving DecidableEq, Repr

/-! ## The parts of a header -/

/-- Whether a character separates the parts of a header. -/
def isSeparator (character : Char) : Bool :=
  character = ' ' || character = '\t' || character = '\r' || character = '\n'

/-- Whether a character can stand in a name. -/
def isNameChar (character : Char) : Bool :=
  !isSeparator character && character != '<' && character != '>' && character != '='
    && character != '.'

/-- The text from the next part on. -/
def skipSeparators (text : List Char) : List Char :=
  text.dropWhile isSeparator

/-- The rest of a path after a character of a name. -/
def readPathRest : List Char → List Char × List Char
  | '.' :: character :: rest =>
    if isNameChar character then
      let (path, after) := readPathRest rest
      ('.' :: character :: path, after)
    else ([], '.' :: character :: rest)
  | character :: rest =>
    if isNameChar character then
      let (path, after) := readPathRest rest
      (character :: path, after)
    else ([], character :: rest)
  | [] => ([], [])

/-- The path a text starts with, and the text after it. -/
def readPath : List Char → Option (List Char × List Char)
  | [] => none
  | character :: rest =>
    if isNameChar character then
      let (path, after) := readPathRest rest
      some (character :: path, after)
    else none

/-- The name a text starts with, and the text after it. -/
def readName (text : List Char) : Option (List Char × List Char) :=
  let name := text.takeWhile isNameChar
  if name.isEmpty then none else some (name, text.dropWhile isNameChar)

/-- The text after the word `in`, if a text starts with that word. -/
def readIn : List Char → Option (List Char)
  | 'i' :: 'n' :: [] => some []
  | 'i' :: 'n' :: character :: rest =>
    if isSeparator character then some (character :: rest) else none
  | _ => none

/-- The operator a text starts with, and the text after it. -/
def readOperator : List Char → Option (Operator × List Char)
  | '<' :: '=' :: rest => some (.atMost, rest)
  | '>' :: '=' :: rest => some (.atLeast, rest)
  | '=' :: '=' :: rest => some (.equals, rest)
  | '<' :: rest => some (.less, rest)
  | '>' :: rest => some (.greater, rest)
  | _ => none

/-- The text between the quote a text starts with and the next one, and the text after that. -/
def readQuoted : List Char → Option (List Char × List Char)
  | [] => none
  | quote :: rest =>
    if quote = '"' ∨ quote = '\'' then
      match rest.dropWhile (· != quote) with
      | [] => none
      | _ :: after => some (rest.takeWhile (· != quote), after)
    else none

/-- The value a text starts with, quotes removed, and the text after it. -/
def readValue (text : List Char) : Option (List Char × List Char) :=
  match readQuoted text with
  | some quoted => some quoted
  | none =>
    let bare := text.takeWhile (!isSeparator ·)
    if bare.isEmpty then none else some (bare, text.dropWhile (!isSeparator ·))

/-! ## Whole headers -/

/-- Asks for a part of a header. -/
def require {α : Type} (part : HeaderPart) (read : List Char → Option α) (text : List Char) :
    Except HeaderError α :=
  match read (skipSeparators text) with
  | some result => .ok result
  | none => .error ⟨part, skipSeparators text⟩

/-- Succeeds at the end of a text. -/
def readEnding : List Char → Option Unit
  | [] => some ()
  | _ :: _ => none

/-- The header of a loop. -/
def LoopHeader.read (text : List Char) : Except HeaderError LoopHeader := do
  let (name, afterName) ← require .name readName text
  let afterWord ← require .word readIn afterName
  let (source, afterSource) ← require .path readPath afterWord
  require .ending readEnding afterSource
  return ⟨.ofList name, .ofList source⟩

/-- The header of a condition. -/
def readCondition (text : List Char) : Except HeaderError Condition := do
  let (path, afterPath) ← require .path readPath text
  let (operator, afterOperator) ← require .operator readOperator afterPath
  let (literal, afterLiteral) ← require .value readValue afterOperator
  require .ending readEnding afterLiteral
  return ⟨.ofList path, operator, .ofList literal⟩

end Stencil.Template
