import Stencil.Scope.Basic

/-!
# What paths leave unchanged

Following a path can make tables of an accessor and keep children, and nothing else:
the scope afterwards is one of the same value with the same bindings (`Scope.Agrees`).

A binding is taken away by its name and its value and not by its place.  The
most recent binding is identical to itself, NaN or not, so that it is the one that
is taken as long as the bindings are those of the time when it was made
(`Scope.Agrees.pop`).
-/

set_option autoImplicit false

namespace Stencil.Scope

/-- Two scopes of the same value with the same bindings. -/
structure Agrees (before after : Scope) : Prop where
  value : after.value = before.value
  locals : after.locals = before.locals

namespace Agrees

theorem refl (scope : Scope) : scope.Agrees scope :=
  ⟨rfl, rfl⟩

theorem symm {left right : Scope} (agrees : left.Agrees right) : right.Agrees left :=
  ⟨agrees.value.symm, agrees.locals.symm⟩

theorem trans {before middle after : Scope} (left : before.Agrees middle)
    (right : middle.Agrees after) : before.Agrees after :=
  ⟨right.value.trans left.value, right.locals.trans left.locals⟩

theorem push {left right : Scope} (agrees : left.Agrees right) (name : String) (value : Value) :
    (left.push name value).Agrees (right.push name value) :=
  ⟨agrees.value, congrArg ((name, value) :: ·) agrees.locals⟩

end Agrees

/-! ## Answers -/

variable (host : Host)

theorem value_child_of_kept {scope kept : Scope} {name : String}
    (found : Entries.get? scope.children name = some kept) :
    (scope.child host name).value = (kept, scope) := by
  rw [child, found]
  rfl

theorem value_child_of_absent {scope : Scope} {name : String}
    (absent : Entries.get? scope.children name = none) :
    (scope.child host name).value =
      (.new host ((scope.member host name).value.1.getD .null),
        (scope.member host name).value.2) := by
  rw [child, absent]
  rfl

theorem value_resolve (scope : Scope) (text : String) :
    (scope.resolve host text).value =
      (follow host (.ofText (Text.trim text.toList)) scope).value := by
  simp only [resolve, Noted.value_bind]
  obtain ⟨found, after⟩ := (follow host (.ofText (Text.trim text.toList)) scope).value
  cases found <;> rfl

theorem value_display (scope : Scope) (text : String) :
    (scope.display host text).value =
      (((scope.resolve host text).value.1.map host.display).getD "",
        (scope.resolve host text).value.2) := by
  simp only [display, Noted.value_bind]
  obtain ⟨found, after⟩ := (scope.resolve host text).value
  rfl

/-! ## Paths -/

theorem agrees_member (scope : Scope) (name : String) :
    scope.Agrees (scope.member host name).value.2 := by
  rw [member]
  split
  · exact .refl scope
  · split
    · exact .refl scope
    · exact ⟨rfl, rfl⟩

theorem children_member (scope : Scope) (name : String) :
    (scope.member host name).value.2.children = scope.children := by
  rw [member]
  split
  · rfl
  · split <;> rfl

theorem agrees_child (scope : Scope) (name : String) :
    scope.Agrees (scope.child host name).value.2 := by
  cases kept : Entries.get? scope.children name with
  | some child =>
    rw [value_child_of_kept host kept]
    exact .refl scope
  | none =>
    rw [value_child_of_absent host kept]
    exact agrees_member host scope name

theorem agrees_keep (scope : Scope) (name : String) (child : Scope) :
    scope.Agrees (scope.keep name child) :=
  ⟨rfl, rfl⟩

theorem agrees_follow (path : Path) (scope : Scope) :
    scope.Agrees (follow host path scope).value.2 := by
  cases path with
  | this => exact .refl scope
  | name name =>
    rw [follow]
    split
    · exact .refl scope
    · exact agrees_member host scope name
  | step name rest =>
    rw [follow]
    split
    · exact .refl scope
    · exact (agrees_child host scope name).trans (agrees_keep _ name _)

theorem agrees_resolve (scope : Scope) (text : String) :
    scope.Agrees (scope.resolve host text).value.2 := by
  rw [value_resolve]
  exact agrees_follow host _ scope

theorem agrees_display (scope : Scope) (text : String) :
    scope.Agrees (scope.display host text).value.2 := by
  rw [value_display]
  exact agrees_resolve host scope text

/-! ## Bindings -/

/-- The most recent binding is the first one looked at. -/
theorem takeBinding_cons_self (name : String) (value : Value) (rest : List (String × Value)) :
    takeBinding name value ((name, value) :: rest) = some (value, rest) := by
  rw [takeBinding, if_pos ⟨rfl, value.identical_self⟩]

/-- Popping what was just pushed gives the value and the scope back. -/
theorem pop_push (scope : Scope) (name : String) (value : Value) :
    (scope.push name value).pop name value = (some value, scope) := by
  have taken : takeBinding name value (scope.push name value).locals =
      some (value, scope.locals) := takeBinding_cons_self name value scope.locals
  rw [pop, taken]
  cases scope
  rfl

/-- A binding is gone once it is popped, if the bindings are again those of when it was made. -/
theorem Agrees.pop {before after : Scope} {name : String} {value : Value}
    (agrees : (before.push name value).Agrees after) :
    before.Agrees (after.pop name value).2 := by
  -- the binding just made is on top again, and it is identical to itself
  have top : after.locals = (name, value) :: before.locals := agrees.locals
  rw [Scope.pop, top, takeBinding_cons_self]
  exact ⟨agrees.value, rfl⟩

end Stencil.Scope
