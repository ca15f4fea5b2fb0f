import Stencil.Error
import Stencil.Template.Condition

/-!
# Events

What happens on the way to an answer and is told to whoever listens, with the
level at which it is told and its wording.
-/

set_option autoImplicit false

namespace Stencil

/-- How much an event matters. -/
inductive Level
  | warn
  | debug
  | trace
  deriving DecidableEq, Repr

/-- Whether a listener for one level hears the events of another. -/
def Level.hears : Level → Level → Bool
  | .warn, .warn => true
  | .warn, _ => false
  | .debug, .trace => false
  | .debug, _ => true
  | .trace, _ => true

/-- The two sorts of readable members a type declares. -/
inductive MemberSort
  /-- Stored members. -/
  | field
  /-- Computed members. -/
  | property
  deriving DecidableEq, Repr

/-- The name of the members of a sort. -/
def MemberSort.plural : MemberSort → String
  | .field => "fields"
  | .property => "properties"

/-- Something that happened. -/
inductive Event
  /-- The members of a type were indexed by name. -/
  | indexed (sort : MemberSort) (typeName : String)
  /-- The methods of a type were indexed by name. -/
  | indexedMethods (typeName : String)
  /-- The member that a dotted path starts with was kept for later paths. -/
  | cached (segment : String)
  /-- A path leads nowhere. -/
  | unresolved (path : String)
  /-- A loop has nothing to visit. -/
  | notIterable (source : String)
  /-- A tag has a keyword without a meaning. -/
  | unknownDirective (keyword : String)
  /-- The path of a condition leads nowhere. -/
  | undefined (condition : Condition)
  /-- The value of a condition has no order. -/
  | unordered (condition : Condition) (kind : Kind)
  /-- The literal of a condition cannot be read as the kind of its value. -/
  | inconvertible (condition : Condition) (kind : Kind)
  deriving DecidableEq, Repr

namespace Event

/-- The level of an event. -/
def level : Event → Level
  | .indexed .. | .indexedMethods _ | .cached _ => .trace
  | .unresolved _ | .notIterable _ => .debug
  | .unknownDirective _ | .undefined _ | .unordered .. | .inconvertible .. => .warn

/-- The wording of an event. -/
def text : Event → String
  | .indexed sort typeName => "Indexing " ++ sort.plural ++ " of `" ++ typeName ++ "`"
  | .indexedMethods typeName => "Indexing methods of `" ++ typeName ++ "`"
  | .cached segment => "Caching environment for `" ++ segment ++ "`"
  | .unresolved path => "`" ++ path ++ "` doesn't resolve to anything"
  | .notIterable source => "`" ++ source ++ "` is not iterable, skipping the loop"
  | .unknownDirective keyword => "Unknown directive `" ++ keyword ++ "` ignored"
  | .undefined condition =>
    "`" ++ condition.path ++ "` is not defined, condition `" ++ condition.text ++ "` is false"
  | .unordered condition kind =>
    "`" ++ condition.path ++ "` is " ++ kind.text ++ " and can't be compared, condition `"
      ++ condition.text ++ "` is false"
  | .inconvertible condition kind =>
    (Error.condition condition.literal kind).message ++ ", condition `" ++ condition.text
      ++ "` is false"

end Event

end Stencil
