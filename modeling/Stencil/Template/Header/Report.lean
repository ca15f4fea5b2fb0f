import Stencil.Template.Header

/-!
# Reports on headers

An unreadable header is reported with its line, underlined up to the place where
a part is missing.  Lines and columns count from one; a line ends at a line feed,
and a carriage return right before it belongs to the line end.  The line is shown
without carriage returns.
-/

set_option autoImplicit false

namespace Stencil.Template

/-- A part of a header in the words of a report. -/
def HeaderPart.text : HeaderPart → String
  | .name => "a name"
  | .word => "`in`"
  | .path => "a path (names separated by `.`)"
  | .operator => "`<=`, `>=`, `==`, `<`, or `>`"
  | .value => "a literal value"
  | .ending => "end of the statement"

/-- The text after the last line feed. -/
def lastLine (text : List Char) : List Char :=
  (text.reverse.takeWhile (· != '\n')).reverse

/-- The text up to the first line feed. -/
def firstLine (text : List Char) : List Char :=
  text.takeWhile (· != '\n')

/-- The blank text of the same width, tabs kept. -/
def underline (text : List Char) : List Char :=
  text.map fun character => if character = '\t' then '\t' else ' '

namespace HeaderError

/-- The part of a header before the place of an error. -/
def before (error : HeaderError) (header : List Char) : List Char :=
  header.take (header.length - error.position.length)

/-- The number of the line of an error. -/
def line (error : HeaderError) (header : List Char) : Nat :=
  (error.before header).count '\n' + 1

/-- The number of the column of an error. -/
def column (error : HeaderError) (header : List Char) : Nat :=
  (lastLine (error.before header)).length + 1

/-- The report on an error in a header. -/
def report (error : HeaderError) (header : List Char) : String :=
  let line := toString (error.line header)
  let column := error.column header
  let margin := String.ofList (List.replicate line.length ' ')
  let shown :=
    (lastLine (error.before header) ++ firstLine error.position).filter (· != '\r')
  margin ++ "--> " ++ line ++ ":" ++ toString column ++ "\n"
    ++ margin ++ " |\n"
    ++ line ++ " | " ++ String.ofList shown ++ "\n"
    ++ margin ++ " | " ++ String.ofList (underline (shown.take (column - 1))) ++ "^---\n"
    ++ margin ++ " |\n"
    ++ margin ++ " = expected " ++ error.missing.text

end HeaderError

end Stencil.Template
