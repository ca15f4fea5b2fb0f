import Stencil.Accessor.Basic
import Stencil.Scope.Path

/-!
# Scopes

A scope is a value together with what is known about it: the bindings of
local names that stand above its members, and for every member that a dotted path
went through the scope of that member.  Such a *child* is kept for later
paths, so a path through it does not see what becomes of the member afterwards; a
member at the end of a path is read anew each time.

Local names are looked up first, and only for the first name of a path.  What a
path through a local name reads is never kept.
-/

set_option autoImplicit false

namespace Stencil

/-- A value with the local names above it and the children below it. -/
structure Scope where
  value : Value
  /-- The way to the members of an object. -/
  accessor? : Option Accessor
  /-- The bindings of local names, the most recent first. -/
  locals : List (String × Value)
  /-- The scopes of members that paths went through. -/
  children : List (String × Scope)

namespace Scope

/-- The scope of a value, without bindings and without children. -/
def new (host : Host) (value : Value) : Scope where
  value := value
  accessor? := value.asObject?.map (.new host)
  locals := []
  children := []

/-! ## Local names -/

/-- Binds a name. -/
def push (scope : Scope) (name : String) (value : Value) : Scope :=
  { scope with locals := (name, value) :: scope.locals }

/-- Takes the most recent binding of a name to an identical value out of some bindings. -/
def takeBinding (name : String) (value : Value) :
    List (String × Value) → Option (Value × List (String × Value))
  | [] => none
  | (boundName, bound) :: rest =>
    if boundName = name ∧ bound.identical value then some (bound, rest)
    else
      (takeBinding name value rest).map fun (taken, others) =>
        (taken, (boundName, bound) :: others)

/-- Removes the most recent binding of a name to an identical value, and gives the value bound. -/
def pop (scope : Scope) (name : String) (value : Value) :
    Option Value × Scope :=
  match takeBinding name value scope.locals with
  | some (taken, others) => (some taken, { scope with locals := others })
  | none => (none, scope)

/-- The value most recently bound to a name. -/
def local? (scope : Scope) (name : String) : Option Value :=
  Entries.get? scope.locals name

/-! ## Members and paths -/

/-- Reads a member: an entry of a map, or a property or else a field of an object. -/
def member (host : Host) (scope : Scope) (name : String) :
    Noted (Option Value × Scope) :=
  match scope.value with
  | .map entries => pure (Entries.get? entries name, scope)
  | _ =>
    match scope.accessor? with
    | none => pure (none, scope)
    | some accessor => do
      let (found, accessor) ← accessor.propertyOrField host name
      return (found, { scope with accessor? := some accessor })

/-- The scope kept for a member, made now if there is none.  A member that is not there is
kept as nothing. -/
def child (host : Host) (scope : Scope) (name : String) :
    Noted (Scope × Scope) := do
  match Entries.get? scope.children name with
  | some kept => return (kept, scope)
  | none =>
    Noted.note (.cached name)
    let (found, scope) ← scope.member host name
    return (.new host (found.getD .null), scope)

/-- The scope with a child kept under a name. -/
def keep (scope : Scope) (name : String) (child : Scope) : Scope :=
  { scope with children := Entries.insert scope.children name child }

/-- Follows a path. -/
def follow (host : Host) : Path → Scope → Noted (Option Value × Scope)
  | .this, scope => pure (some scope.value, scope)
  | .name name, scope =>
    match scope.local? name with
    | some bound => pure (some bound, scope)
    | none => scope.member host name
  | .step name rest, scope =>
    match scope.local? name with
    | some bound => do
      let (found, _) ← follow host rest (.new host bound)
      return (found, scope)
    | none => do
      let (child, scope) ← scope.child host name
      let (found, child) ← follow host rest child
      return (found, scope.keep name child)

/-- The value that a text leads to as a path. -/
def resolve (host : Host) (scope : Scope) (text : String) :
    Noted (Option Value × Scope) := do
  let path := Text.trim text.toList
  let (found, scope) ← follow host (.ofText path) scope
  if found.isNone then Noted.note (.unresolved (.ofList path))
  return (found, scope)

/-- The text of the value that a text leads to as a path, empty if there is none. -/
def display (host : Host) (scope : Scope) (text : String) :
    Noted (String × Scope) := do
  let (found, scope) ← scope.resolve host text
  return ((found.map host.display).getD "", scope)

end Scope

end Stencil
