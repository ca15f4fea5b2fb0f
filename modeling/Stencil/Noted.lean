import Stencil.Event

/-!
# Computations with events

A computation that notes events is a value beside the list of its events.  An
event never changes an answer: the value of a sequence is computed from the values
of its parts alone (`Noted.value_bind`), and its events are theirs, in order
(`Noted.events_bind`).
-/

set_option autoImplicit false

namespace Stencil

/-- A value and the events on the way to it. -/
structure Noted (α : Type) where
  value : α
  events : List Event

namespace Noted

variable {α β : Type}

/-- A value without events. -/
def silent (value : α) : Noted α :=
  ⟨value, []⟩

/-- One event. -/
def note (event : Event) : Noted Unit :=
  ⟨(), [event]⟩

/-- The events of a computation and then those of its continuation. -/
def andThen (noted : Noted α) (next : α → Noted β) : Noted β :=
  let after := next noted.value
  ⟨after.value, noted.events ++ after.events⟩

instance : Monad Noted where
  pure := silent
  bind := andThen

@[simp]
theorem value_pure (value : α) : (pure value : Noted α).value = value := rfl

@[simp]
theorem events_pure (value : α) : (pure value : Noted α).events = [] := rfl

/-- The value of a sequence depends on the values of its parts alone. -/
@[simp]
theorem value_bind (noted : Noted α) (next : α → Noted β) :
    (noted >>= next).value = (next noted.value).value := rfl

@[simp]
theorem events_bind (noted : Noted α) (next : α → Noted β) :
    (noted >>= next).events = noted.events ++ (next noted.value).events := rfl

@[simp]
theorem value_map (f : α → β) (noted : Noted α) : (f <$> noted).value = f noted.value := rfl

@[simp]
theorem events_map (f : α → β) (noted : Noted α) : (f <$> noted).events = noted.events :=
  List.append_nil _

@[simp]
theorem value_note (event : Event) : (note event).value = () := rfl

@[simp]
theorem events_note (event : Event) : (note event).events = [event] := rfl

instance : LawfulMonad Noted :=
  LawfulMonad.mk' Noted (fun noted => congrArg (Noted.mk noted.value) (List.append_nil _))
    (fun _ _ => rfl) (fun _ _ _ => congrArg (Noted.mk _) (List.append_assoc _ _ _))

end Noted

end Stencil
