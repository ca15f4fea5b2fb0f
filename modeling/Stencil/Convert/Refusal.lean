import Stencil.Numeric.Integer
import Stencil.Text.Last

/-!
# Refusals

Data that refuses to be written says why in a text of its own.  Such a text may
end with a place in a document, a line and a column.  The place is read as two
numbers and written again in plain digits; line zero stands for no place at all,
and a text that names it loses that ending.
-/

set_option autoImplicit false

namespace Stencil

open Numeric (isDigits ofDigits)
open Text (cutAtLast)

/-! ## Places -/

/-- A place in a document. -/
structure Place where
  line : Nat
  column : Nat
  deriving DecidableEq, Repr

namespace Place

/-- The words before the line. -/
def lineMark : List Char :=
  " at line ".toList

/-- The words before the column. -/
def columnMark : List Char :=
  " column ".toList

/-- The 64-bit natural number that a run of digits denotes. -/
def readCount (digits : List Char) : Option Nat :=
  if isDigits digits && ofDigits digits < 18446744073709551616 then some (ofDigits digits) else none

/-- The place that a text names from the number of the line on. -/
def read (text : List Char) : Option Place :=
  let rest := text.dropWhile Char.isDigit
  if columnMark.isPrefixOf rest then
    match readCount (text.takeWhile Char.isDigit), readCount (rest.drop columnMark.length) with
    | some line, some column => some ⟨line, column⟩
    | _, _ => none
  else none

/-- The ending of a text that names a place. -/
def text (place : Place) : String :=
  String.ofList lineMark ++ toString place.line ++ String.ofList columnMark ++ toString place.column

end Place

/-! ## Refusals -/

/-- Why data refused to be written, and the place that it names. -/
structure Refusal where
  reason : String
  place : Option Place
  deriving DecidableEq, Repr

namespace Refusal

/-- The refusal that a text states. -/
def ofText (text : String) : Refusal :=
  match cutAtLast Place.lineMark text.toList with
  | none => ⟨text, none⟩
  | some (before, after) =>
    match Place.read after with
    | none => ⟨text, none⟩
    | some place => ⟨String.ofList before, if place.line = 0 then none else some place⟩

/-- The wording of a refusal. -/
def text (refusal : Refusal) : String :=
  match refusal.place with
  | none => refusal.reason
  | some place => refusal.reason ++ place.text

end Refusal

end Stencil
