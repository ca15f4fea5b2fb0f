import Stencil.Error
import Stencil.Template.Header.Report

/-!
# Templates as trees

A template is a list of nodes.  Plain text is kept one character a node, so that
the nodes of two texts written one after the other are the nodes of the first and
then those of the second.

A malformed part of a text is a node too, a *fault*.  It does no harm until
rendering reaches it; a fault in a branch that is not taken goes unnoticed.
-/

set_option autoImplicit false

namespace Stencil.Template

/-- Why a part of a template is malformed. -/
inductive Flaw
  /-- A variable is not closed. -/
  | openVariable
  /-- A tag is not closed. -/
  | openTag
  /-- The header of a loop cannot be read. -/
  | loopHeader (header : List Char) (error : HeaderError)
  /-- The header of a condition cannot be read. -/
  | conditionHeader (header : List Char) (error : HeaderError)
  /-- A loop is not closed. -/
  | openLoop
  /-- A condition is not closed. -/
  | openCondition
  deriving DecidableEq, Repr

/-- The wording of a flaw. -/
def Flaw.message : Flaw → String
  | .openVariable => "expected `\x7d\x7d`"
  | .openTag => "expected `%\x7d` to close `\x7b%`"
  | .loopHeader header error => "invalid `foreach` statement\n" ++ error.report header
  | .conditionHeader header error => "invalid `if` statement\n" ++ error.report header
  | .openLoop => "missing `\x7b% endfor %\x7d`"
  | .openCondition => "missing `\x7b% endif %\x7d`"

/-- A part of a template. -/
inductive Node
  /-- A character of plain text. -/
  | text (character : Char)
  /-- The value at a path. -/
  | variable (path : String)
  /-- The start of a tag with a keyword without a meaning. -/
  | directive (keyword : String)
  /-- A part that is repeated for every element of the value at a path. -/
  | loop (header : LoopHeader) (body : List Node)
  /-- A choice between two parts. -/
  | choice (condition : Condition) (accepted : List Node) (rejected : List Node)
  /-- A malformed part: the flaw, and the text from there on. -/
  | fault (flaw : Flaw) (tail : List Char)

namespace Node

/-- The error of rendering a malformed part. -/
def faultError (flaw : Flaw) (tail : List Char) : Error :=
  .malformed flaw.message (.ofList tail)

end Node

end Stencil.Template
