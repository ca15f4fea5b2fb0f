import Stencil.Proofs.Accessor.Consulting
import Stencil.Proofs.Accessor.Isolation

/-!
# Calls of accessors and their parents

An accessor is asked to read, to write, to invoke or to list members, and for its parent.
Such a request may go to the accessor itself or to the one so many steps up, and the tables
that are built up there belong to the chain of the accessor.

A request builds the tables that it consults and that are not there
(`Accessor.events_respond`), and it comes to the same on any accessor of the object that
reaches the same types (`Accessor.reply_eq`).
-/

set_option autoImplicit false

namespace Stencil.Accessor

/-! ## Calls -/

/-- What can be called on an accessor. -/
inductive Call
  | ask (use : Use)
  | parent

/-- What a call gives back.  Of a parent it is the object and the types from the bound one up. -/
inductive Reply
  | used (answer : Answer)
  | parent (bound? : Option (Handle × List Declaration))

/-- The reply of an accessor to a call, with the host and the accessor afterwards. -/
def perform (host : Host) (accessor : Accessor) : Call → Noted ((Reply × Host) × Accessor)
  | .ask use => do
    let ((answer, written), after) ← accessor.use host use
    return ((.used answer, written), after)
  | .parent =>
    pure ((.parent (accessor.parent?.map fun parent => (parent.object, parent.declarations)), host),
      accessor)

/-- A search of tables. -/
structure Consultation where
  table : Table
  inherited : Bool
  answers : Declaration → Bool

/-- The search of tables that a use makes.  A snapshot goes through the declarations and consults no
table. -/
def Use.consultation? (host : Host) : Use → Option Consultation
  | .get sort search name | .set sort search name _ =>
    some ⟨.members sort, search.inherited,
      fun declaration => (declaration.member? sort search name).isSome⟩
  | .invoke search name arguments =>
    some ⟨.methods, search.inherited,
      fun declaration => (declaration.method? search name (arguments.map host.kind)).isSome⟩
  | .members _ => none

/-- The search of tables that a call makes. -/
def Call.consultation? (host : Host) : Call → Option Consultation
  | .ask use => use.consultation? host
  | .parent => none

/-- The tables that a search consults. -/
def Consultation.places (declarations : List Declaration) (search : Consultation) :
    List TableAt :=
  withinReach search.table (reach search.inherited search.answers declarations)

/-- The tables that a call consults. -/
def Call.consults (host : Host) (declarations : List Declaration) (call : Call) : List TableAt :=
  match call.consultation? host with
  | some search => search.places declarations
  | none => []

theorem Call.consults_nil (host : Host) (call : Call) : call.consults host [] = [] := by
  rw [consults]
  cases call.consultation? host <;> rfl

variable (host : Host) (accessor : Accessor)

/-- The accessor after a search of tables, if there is one. -/
def consulted (accessor : Accessor) : Option Consultation → Noted Accessor
  | some ⟨table, inherited, answers⟩ =>
    accessor.consulting ⟨false, inherited⟩ answers (Link.indexTable table)
  | none => pure accessor

theorem events_use (use : Use) :
    (accessor.use host use).events = (accessor.consulted (use.consultation? host)).events := by
  cases use with
  | get sort search name =>
    simp only [Accessor.use, get, Noted.events_bind, Noted.events_pure, List.append_nil]
    rfl
  | set sort search name value =>
    simp only [Accessor.use, set, Noted.events_bind, Noted.events_pure, List.append_nil]
    cases accessor.member? sort search name <;> exact List.append_nil _
  | invoke search name arguments =>
    simp only [Accessor.use, invoke, Noted.events_bind, Noted.events_pure, List.append_nil]
    cases accessor.method? search name (arguments.map host.kind) <;> exact List.append_nil _
  | members search => rfl

theorem after_use (use : Use) :
    (accessor.use host use).value.2 = (accessor.consulted (use.consultation? host)).value := by
  cases use with
  | get sort search name => rfl
  | set sort search name value => simp only [Accessor.use, Noted.value_bind, value_set]; rfl
  | invoke search name arguments => simp only [Accessor.use, Noted.value_bind, value_invoke]; rfl
  | members search => rfl

theorem events_perform_eq_consulted (call : Call) :
    (accessor.perform host call).events =
      (accessor.consulted (call.consultation? host)).events := by
  cases call with
  | ask use => exact (List.append_nil _).trans (accessor.events_use host use)
  | parent => rfl

theorem after_perform (call : Call) :
    (accessor.perform host call).value.2 =
      (accessor.consulted (call.consultation? host)).value := by
  cases call with
  | ask use => exact accessor.after_use host use
  | parent => rfl

theorem links_consulting (search : Search) (answers : Declaration → Bool)
    (index : Link → Noted Link) :
    (accessor.consulting search answers index).value.links =
      (consult search.inherited answers index accessor.links).value := by
  obtain ⟨first, rest, consulted⟩ : ∃ first rest,
      (consult search.inherited answers index accessor.links).value = first :: rest := by
    rw [links, consult, Noted.value_bind]
    split
    · exact ⟨_, _, rfl⟩
    · exact ⟨_, _, rfl⟩
  rw [consulting, Noted.value_bind, consulted]
  rfl

theorem events_consulting (search : Search) (answers : Declaration → Bool)
    (index : Link → Noted Link) :
    (accessor.consulting search answers index).events =
      (consult search.inherited answers index accessor.links).events := by
  rw [consulting, Noted.events_bind]
  split <;> exact List.append_nil _

/-! ## One call -/

/-- A call builds the tables that it consults and that are not there. -/
theorem events_perform (call : Call) :
    (accessor.perform host call).events =
      buildEvents accessor.links (call.consults host accessor.declarations) := by
  rw [events_perform_eq_consulted, Call.consults]
  cases call.consultation? host with
  | none => rfl
  | some search => exact (accessor.events_consulting _ _ _).trans (events_consult ..)

/-- After a call the tables are there that were there before and those that it consults. -/
theorem builtIn_perform (call : Call) (place : TableAt) :
    builtIn (accessor.perform host call).value.2.links place =
      (builtIn accessor.links place ||
        decide (place ∈ call.consults host accessor.declarations)) := by
  rw [after_perform, Call.consults]
  cases call.consultation? host with
  | none => simp [consulted]
  | some search =>
    rw [consulted, links_consulting]
    exact builtIn_consult ..

theorem sameMembers_perform (call : Call) :
    (accessor.perform host call).value.2.SameMembers accessor := by
  rw [after_perform]
  cases call.consultation? host with
  | none => exact .refl accessor
  | some search =>
    exact accessor.sameMembers_consulting _ _ (Link.declaration_indexTable search.table)

theorem parent?_map_declarations :
    (accessor.parent?.map fun parent => (parent.object, parent.declarations)) =
      match accessor.declarations.tail with
      | [] => none
      | declaration :: rest => some (accessor.object, declaration :: rest) := by
  rw [parent?, declarations, links, List.map_cons, List.tail_cons]
  cases accessor.ancestors <;> rfl

/-- Tables do not matter for what a call comes to. -/
theorem SameMembers.perform_eq {left right : Accessor} (same : left.SameMembers right)
    (call : Call) : (left.perform host call).value.1 = (right.perform host call).value.1 := by
  have object := same.object
  have steps := same.steps
  have declarations := same.declarations
  cases call with
  | parent =>
    simp only [perform, Noted.value_pure, parent?_map_declarations, object, declarations]
  | ask use =>
    have reply (accessor : Accessor) : (accessor.perform host (.ask use)).value.1 =
        Prod.map Reply.used id (accessor.use host use).value.1 := rfl
    rw [reply, reply]
    congr 1
    cases use with
    | get sort search name =>
      have found : left.valueOf? host sort search name = right.valueOf? host sort search name :=
        same.valueOf?_eq host sort search name
      exact congrArg (fun found => (Answer.found found, host)) found
    | set sort search name value =>
      have located : left.member? sort search name = right.member? sort search name := by
        rw [member?, member?, steps, declarations]
      simp only [Accessor.use, Noted.value_bind, value_set, located, object, Noted.value_pure]
    | invoke search name arguments =>
      have located (kinds : List Kind) :
          left.method? search name kinds = right.method? search name kinds := by
        rw [method?, method?, steps, declarations]
      simp only [Accessor.use, Noted.value_bind, value_invoke, located, object, Noted.value_pure]
    | members search =>
      have own (accessor : Accessor) :
          [accessor.bound.declaration] = accessor.declarations.take 1 := rfl
      simp only [Accessor.use, Noted.value_pure, members, searched, own, object, steps,
        declarations]

/-! ## One call of a parent -/

/-- The accessor so many steps up. -/
def ancestor? : Nat → Accessor → Option Accessor
  | 0, accessor => some accessor
  | steps + 1, accessor =>
    match accessor.parent? with
    | none => none
    | some parent => ancestor? steps parent

/-- The accessor with the tables that were built by way of the one so many steps up. -/
def rejoined : Nat → Accessor → Accessor → Accessor
  | 0, _, changed => changed
  | steps + 1, accessor, changed =>
    match accessor.parent? with
    | none => accessor
    | some parent => accessor.withParent (rejoined steps parent changed)

theorem above_eq {α : Type} (act : Accessor → Noted (α × Accessor)) (steps : Nat)
    (accessor : Accessor) :
    accessor.above act steps = (ancestor? steps accessor).map fun up =>
      (fun (answer, changed) => (answer, rejoined steps accessor changed)) <$> act up := by
  induction steps generalizing accessor with
  | zero => simp [above, ancestor?, rejoined]
  | succ steps ih =>
    rw [above, ancestor?]
    cases parent : accessor.parent? with
    | none => rfl
    | some bound =>
      simp only [ih, Option.map_map, rejoined, parent]
      congr 1
      funext up
      simp [Function.comp_apply]

theorem ancestor?_eq (steps : Nat) (accessor : Accessor) :
    ancestor? steps accessor =
      match accessor.links.drop steps with
      | [] => none
      | bound :: ancestors => some ⟨accessor.object, accessor.steps + steps, bound, ancestors⟩ := by
  induction steps generalizing accessor with
  | zero => rfl
  | succ steps ih =>
    obtain ⟨object, level, bound, ancestors⟩ := accessor
    cases ancestors with
    | nil => simp [ancestor?, parent?, links]
    | cons next rest =>
      refine (ih ⟨object, level + 1, next, rest⟩).trans ?_
      simp only [links, List.drop_succ_cons, Nat.add_assoc, Nat.add_comm 1]

theorem ancestor?_eq_none_iff {accessor : Accessor} {steps : Nat} :
    ancestor? steps accessor = none ↔ accessor.declarations.drop steps = [] := by
  rw [ancestor?_eq, declarations, ← List.map_drop]
  cases accessor.links.drop steps <;> simp

section Rejoined

variable {accessor} {up changed : Accessor} {steps : Nat}
  (found : ancestor? steps accessor = some up)
include found

theorem links_rejoined :
    (rejoined steps accessor changed).links = accessor.links.take steps ++ changed.links := by
  induction steps generalizing accessor with
  | zero => rfl
  | succ steps ih =>
    obtain ⟨object, level, bound, ancestors⟩ := accessor
    cases ancestors with
    | nil => cases found
    | cons next rest =>
      exact congrArg (bound :: ·) (ih found)

theorem of_ancestor? :
    up.object = accessor.object ∧ up.steps = accessor.steps + steps ∧
      up.links = accessor.links.drop steps := by
  rw [ancestor?_eq] at found
  split at found
  · cases found
  · next bound ancestors dropped =>
    obtain rfl := Option.some.inj found
    exact ⟨rfl, rfl, dropped.symm⟩

theorem links_of_ancestor? : up.links = accessor.links.drop steps :=
  (of_ancestor? found).2.2

theorem declarations_of_ancestor? : up.declarations = accessor.declarations.drop steps := by
  rw [declarations, links_of_ancestor? found, List.map_drop, declarations]

theorem sameMembers_rejoined (same : changed.SameMembers up) :
    (rejoined steps accessor changed).SameMembers accessor := by
  have kept : (rejoined steps accessor changed).declarations = accessor.declarations := by
    have above := same.declarations.trans (declarations_of_ancestor? found)
    rw [declarations, links_rejoined found, List.map_append, List.map_take]
    exact (congrArg (_ ++ ·) above).trans (List.take_append_drop ..)
  cases steps with
  | zero =>
    obtain rfl := Option.some.inj found
    exact same
  | succ steps =>
    obtain ⟨object, level, bound, ancestors⟩ := accessor
    cases ancestors with
    | nil => cases found
    | cons next rest => exact ⟨rfl, rfl, kept⟩

end Rejoined

/-- A call of the accessor so many steps up, made while the host is in some state. -/
structure Request where
  host : Host
  steps : Nat
  call : Call

/-- The reply to a request, if there is an accessor so many steps up, and the accessor after it. -/
def respond (accessor : Accessor) (request : Request) :
    Noted (Option (Reply × Host) × Accessor) :=
  match accessor.above (perform request.host · request.call) request.steps with
  | some noted => (fun (reply, after) => (some reply, after)) <$> noted
  | none => pure (none, accessor)

/-- The tables that a request consults. -/
def Request.consults (declarations : List Declaration) (request : Request) : List TableAt :=
  (request.call.consults request.host (declarations.drop request.steps)).map
    (.raise request.steps)

section Respond

variable (accessor : Accessor) (request : Request)

theorem respond_of_none (missing : ancestor? request.steps accessor = none) :
    accessor.respond request = pure (none, accessor) := by
  rw [respond, above_eq, missing]
  rfl

theorem respond_of_some {up : Accessor} (found : ancestor? request.steps accessor = some up) :
    (accessor.respond request).value =
        (some (up.perform request.host request.call).value.1,
          rejoined request.steps accessor (up.perform request.host request.call).value.2) ∧
      (accessor.respond request).events = (up.perform request.host request.call).events := by
  rw [respond, above_eq, found]
  exact ⟨rfl, by simp⟩

theorem sameMembers_respond : (accessor.respond request).value.2.SameMembers accessor := by
  cases found : ancestor? request.steps accessor with
  | none =>
    rw [accessor.respond_of_none request found]
    exact .refl accessor
  | some up =>
    rw [(accessor.respond_of_some request found).1]
    exact sameMembers_rejoined found (up.sameMembers_perform _ _)

theorem consults_of_none (missing : ancestor? request.steps accessor = none) :
    request.consults accessor.declarations = [] := by
  rw [Request.consults, ancestor?_eq_none_iff.mp missing, Call.consults_nil]
  rfl

/-- A request builds the tables that it consults and that are not there. -/
theorem events_respond :
    (accessor.respond request).events =
      buildEvents accessor.links (request.consults accessor.declarations) := by
  cases found : ancestor? request.steps accessor with
  | none =>
    rw [accessor.respond_of_none request found, accessor.consults_of_none request found]
    rfl
  | some up =>
    rw [(accessor.respond_of_some request found).2, events_perform, links_of_ancestor? found,
      declarations_of_ancestor? found, buildEvents_drop, Request.consults]

/-- After a request the tables are there that were there before and those that it consults. -/
theorem builtIn_respond (place : TableAt) :
    builtIn (accessor.respond request).value.2.links place =
      (builtIn accessor.links place ||
        decide (place ∈ request.consults accessor.declarations)) := by
  cases found : ancestor? request.steps accessor with
  | none =>
    rw [accessor.respond_of_none request found, accessor.consults_of_none request found]
    simp
  | some up =>
    have exists_above : (accessor.links.drop request.steps) ≠ [] := by
      rw [← links_of_ancestor? found]
      exact List.cons_ne_nil _ _
    have length : (accessor.links.take request.steps).length = request.steps := by
      rw [List.length_take]
      have := List.drop_eq_nil_iff.not.mp exists_above
      omega
    rw [(accessor.respond_of_some request found).1, links_rejoined found, builtIn_append, length,
      builtIn_perform, links_of_ancestor? found,
      declarations_of_ancestor? found, Request.consults]
    have parts := builtIn_append (accessor.links.take request.steps)
      (accessor.links.drop request.steps) place
    rw [List.take_append_drop, length] at parts
    rw [parts]
    simp only [mem_map_raise]
    split
    · next below => simp [Nat.not_le_of_lt below]
    · next above => simp [Nat.le_of_not_lt above]

end Respond

/-- Accessors of one object reply alike where they are bound to the same types. -/
theorem reply_eq {left right : Accessor} {request other : Request}
    (host : request.host = other.host) (call : request.call = other.call)
    (object : left.object = right.object)
    (steps : left.steps + request.steps = right.steps + other.steps)
    (bound : left.declarations.drop request.steps = right.declarations.drop other.steps) :
    (left.respond request).value.1 = (right.respond other).value.1 := by
  cases found : ancestor? request.steps left with
  | none =>
    have missing := ancestor?_eq_none_iff.mpr (bound ▸ ancestor?_eq_none_iff.mp found)
    rw [respond_of_none _ _ found, respond_of_none _ _ missing]
    rfl
  | some up =>
    cases found' : ancestor? other.steps right with
    | none =>
      rw [ancestor?_eq_none_iff, ← bound, ← ancestor?_eq_none_iff, found] at found'
      cases found'
    | some up' =>
      obtain ⟨ofLeft, stepsLeft, -⟩ := of_ancestor? found
      obtain ⟨ofRight, stepsRight, -⟩ := of_ancestor? found'
      have same : up.SameMembers up' := by
        refine ⟨?_, ?_, ?_⟩
        · rw [ofLeft, ofRight, object]
        · rw [stepsLeft, stepsRight, steps]
        · rw [declarations_of_ancestor? found, declarations_of_ancestor? found', bound]
      rw [(respond_of_some _ _ found).1, (respond_of_some _ _ found').1, host, call,
        same.perform_eq]

end Stencil.Accessor
