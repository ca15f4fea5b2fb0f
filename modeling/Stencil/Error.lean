import Stencil.Convert.Serial
import Stencil.Value.Kind

/-!
# Errors

What can go wrong, by cause, and the wording of each cause.
-/

set_option autoImplicit false

namespace Stencil

/-- A failure. -/
inductive Error
  /-- A failure in the caller's words. -/
  | general (text : String)
  /-- A failure in the caller's words, with the failure behind it. -/
  | chained (text : String) (cause : Error)
  /-- The template is malformed from the text `tail` on. -/
  | malformed (reason : String) (tail : String)
  /-- The literal of a condition is no text of a value of the kind it is compared with. -/
  | condition (literal : String) (kind : Kind)
  /-- Data could not be serialized. -/
  | serial (cause : SerialError)
  deriving DecidableEq

namespace Error

/-- The wording of a failure. -/
def message : Error → String
  | .general text => text
  | .chained text _ => text
  | .malformed reason tail => "Syntax error, " ++ reason ++ ": `" ++ tail ++ "`"
  | .condition literal kind =>
    "Condition literal `" ++ literal ++ "` can't be converted to " ++ kind.text
  | .serial cause => cause.message

/-- The failure behind a failure. -/
def cause? : Error → Option Error
  | .chained _ cause => some cause
  | _ => none

/-- The unread rest of a malformed template. -/
def tail? : Error → Option String
  | .malformed _ tail => some tail
  | _ => none

end Error

end Stencil
