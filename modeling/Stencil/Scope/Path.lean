import Stencil.Text.Blank
import Stencil.Text.Caseless
import Stencil.Text.Split

/-!
# Paths

A path is a sequence of names separated by points, read from left to right: each
name but the last leads into a value in which the rest of the path is followed.

The word `this`, in any case, means the value itself when it is the whole path or
all that is left of it.  Before other names it is left out, once; what follows it
is a name even if it is the same word again.
-/

set_option autoImplicit false

namespace Stencil

/-- A path without the words that are left out. -/
inductive Path
  /-- The value itself. -/
  | this
  /-- A name. -/
  | name (name : String)
  /-- A name, and the rest of the path from the value under it. -/
  | step (name : String) (rest : Path)
  deriving DecidableEq, Repr

namespace Path

/-- Whether a segment is the word for the value itself. -/
def isThis (segment : List Char) : Bool :=
  Text.alike segment ['t', 'h', 'i', 's']

/-- The path with a first segment and some others. -/
def ofSegments : List Char → List (List Char) → Path
  | segment, [] => if isThis segment then .this else .name (.ofList segment)
  | first, [second] =>
    if isThis first then .name (.ofList second)
    else .step (.ofList first) (ofSegments second [])
  | first, second :: third :: rest =>
    if isThis first then .step (.ofList second) (ofSegments third rest)
    else .step (.ofList first) (ofSegments second (third :: rest))

/-- The path that a text without blanks around it denotes. -/
def ofText (text : List Char) : Path :=
  ofSegments (Text.split '.' text).1 (Text.split '.' text).2

end Path

end Stencil
