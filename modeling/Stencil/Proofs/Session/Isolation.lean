import Stencil.Host.Formula
import Stencil.Proofs.Accessor.Isolation
import Stencil.Proofs.Render.Relation
import Stencil.Proofs.Session.Transparency

/-!
# What the host holds is isolated

Any number of sessions and accessors are in use beside each other on one host, on a
*desk*.  A run of requests starts sessions and accessors, calls sessions, uses accessors
and the supertypes of their objects, and shows values, iterates them and looks at the
slots of instances.

Everything that a session does comes down to reading members and to the texts, kinds and
elements of values, and those are the same for alike hosts.  So a request is isolated
from what the host holds, and with that a run of requests is (`Desk.isolated_run`).  What
is held exclusively cannot be told from outside and is left alone; what is held for
reading stays as it is (`Desk.run_of_alike`).
-/

set_option autoImplicit false

namespace Stencil

/-! ## Sessions of alike hosts -/

namespace Host.Alike

variable {left right : Host} (alike : left.Alike right)
include alike

theorem scope_new : Scope.new left = Scope.new right := by
  funext value
  rw [Scope.new, alike.accessor_new, Scope.new]

theorem scope_member : Scope.member left = Scope.member right := by
  funext scope name
  rw [Scope.member, alike.propertyOrField, Scope.member]

theorem scope_child : Scope.child left = Scope.child right := by
  funext scope name
  rw [Scope.child, alike.scope_member, alike.scope_new, Scope.child]

theorem follow (path : Path) : Scope.follow left path = Scope.follow right path := by
  induction path with
  | this => rfl
  | name name =>
    funext scope
    rw [Scope.follow, alike.scope_member, Scope.follow]
  | step name rest ih =>
    funext scope
    rw [Scope.follow, alike.scope_child, alike.scope_new, ih, Scope.follow]

theorem resolve : Scope.resolve left = Scope.resolve right := by
  funext scope text
  simp only [Scope.resolve, alike.follow]

theorem scope_display : Scope.display left = Scope.display right := by
  funext scope text
  rw [Scope.display, alike.resolve, alike.display, Scope.display]

theorem elementsAt : Rendering.elementsAt left = Rendering.elementsAt right := by
  funext source scope
  rw [Rendering.elementsAt, alike.resolve, alike.elements?, Rendering.elementsAt]

theorem check (strict : Bool) (condition : Condition) :
    condition.check left strict = condition.check right strict := by
  funext scope
  rw [Condition.check, alike.resolve, alike.kind, Condition.check]

theorem closedTogether (strict : Bool) :
    Rendering.ClosedTogether left strict right strict fun first second => first = second where
  answer := fun _ => rfl
  fault := fun flaw tail => by rw [Template.Node.render, Template.Node.render]
  display := fun path => by
    rw [Template.Node.render, Template.Node.render, alike.scope_display]
  directive := fun keyword => by rw [Template.Node.render, Template.Node.render]
  elements := fun source => by rw [alike.elementsAt]
  check := alike.check strict
  andThen := fun first next => by rw [first, funext next]
  binding := fun name value body => by rw [body]

/-- Alike hosts render alike, with the same events. -/
theorem render : Session.render left = Session.render right := by
  funext session text
  rw [Session.render, (alike.closedTogether session.strict).renderAll, Session.render]

/-- A session cannot tell alike hosts apart. -/
theorem perform : Session.perform left = Session.perform right := by
  funext session call
  cases call <;>
    simp only [Session.perform, alike.render, alike.resolve, alike.scope_display]

theorem session_new : Session.new left = Session.new right := by
  funext root
  rw [Session.new, alike.scope_new, Session.new]

end Host.Alike

/-! ## Sessions and accessors beside each other -/

/-- The sessions and accessors that are in use on one host. -/
structure Desk where
  sessions : List Session
  accessors : List Accessor

namespace Desk

open Host (Isolated isolated_of_look)

/-- What can be asked. -/
inductive Request
  /-- A new session of a root value. -/
  | startSession (root : Value)
  /-- A call of the session at a place. -/
  | call (place : Nat) (call : Session.Call)
  /-- A new accessor of an object. -/
  | startAccessor (object : Handle)
  /-- A use of the accessor at a place, or of the one so many steps above it. -/
  | use (place steps : Nat) (use : Accessor.Use)
  /-- A use of the accessor that the session at a place has of its root value, or of the one so many
  steps above it. -/
  | useRoot (place steps : Nat) (use : Accessor.Use)
  /-- The text of a value. -/
  | text (value : Value)
  /-- What a loop over a value visits. -/
  | iterate (value : Value)
  /-- The slots of an instance. -/
  | slots (object : Handle)

/-- What is given back. -/
inductive Reply
  | started
  /-- There is nothing at a place. -/
  | missing
  | answered (answer : Session.Answer)
  | used (answer? : Option Accessor.Answer)
  | shown (text : String)
  | elements (elements? : Option (List Value))
  | slots (slots? : Option (List Slots))

/-- The desk with another session behind the others. -/
def addSession (desk : Desk) (session : Session) : Desk :=
  { desk with sessions := desk.sessions ++ [session] }

/-- The desk with another accessor behind the others. -/
def addAccessor (desk : Desk) (accessor : Accessor) : Desk :=
  { desk with accessors := desk.accessors ++ [accessor] }

/-- The desk with the session at a place changed. -/
def withSession (desk : Desk) (place : Nat) (session : Session) : Desk :=
  { desk with sessions := desk.sessions.set place session }

/-- The desk with the accessor at a place changed. -/
def withAccessor (desk : Desk) (place : Nat) (accessor : Accessor) : Desk :=
  { desk with accessors := desk.accessors.set place accessor }

/-- The reply to a request, with the desk and the host afterwards. -/
def perform (host : Host) (desk : Desk) : Request → (Reply × Desk) × Host
  | .startSession root => ((.started, desk.addSession (.new host root)), host)
  | .call place call =>
    match desk.sessions[place]? with
    | none => ((.missing, desk), host)
    | some session =>
      let answered := session.perform host call
      ((.answered answered.1, desk.withSession place answered.2), host)
  | .startAccessor object => ((.started, desk.addAccessor (.new host object)), host)
  | .use place steps use =>
    match desk.accessors[place]? with
    | none => ((.missing, desk), host)
    | some accessor =>
      let used := accessor.useAbove host steps use
      ((.used used.1.1, desk.withAccessor place used.1.2), used.2)
  | .useRoot place steps use =>
    match desk.sessions[place]? with
    | none => ((.missing, desk), host)
    | some session =>
      match session.scope.accessor? with
      | none => ((.missing, desk), host)
      | some accessor =>
        let used := accessor.useAbove host steps use
        let scope := { session.scope with accessor? := some used.1.2 }
        ((.used used.1.1, desk.withSession place (session.withScope scope)), used.2)
  | .text value => ((.shown (host.display value), desk), host)
  | .iterate value => ((.elements (host.elements? value), desk), host)
  | .slots object => ((.slots (host.slots? object), desk), host)

/-- The replies to requests one after the other, with the desk and the host afterwards. -/
def run (host : Host) (desk : Desk) : List Request → (List Reply × Desk) × Host
  | [] => (([], desk), host)
  | request :: requests =>
    let first := perform host desk request
    let rest := run first.2 first.1.2 requests
    ((first.1.1 :: rest.1.1, rest.1.2), rest.2)

/-- A request is isolated from what the host holds. -/
theorem isolated_perform (desk : Desk) (request : Request) :
    Isolated fun host => perform host desk request := by
  have missing : Isolated fun host => ((Reply.missing, desk), host) :=
    isolated_of_look (fun _ => (Reply.missing, desk)) fun _ => rfl
  cases request with
  | startSession root =>
    exact isolated_of_look (fun host => (Reply.started, desk.addSession (.new host root)))
      fun alike => by rw [alike.session_new]
  | call place call =>
    simp only [perform]
    cases desk.sessions[place]? with
    | none => exact missing
    | some session =>
      exact isolated_of_look (fun host => (Reply.answered (session.perform host call).1,
        desk.withSession place (session.perform host call).2)) fun alike => by rw [alike.perform]
  | startAccessor object =>
    exact isolated_of_look
      (fun host => (Reply.started, desk.addAccessor (.new host object)))
      fun alike => by rw [alike.accessor_new]
  | use place steps use =>
    simp only [perform]
    cases desk.accessors[place]? with
    | none => exact missing
    | some accessor =>
      exact (accessor.isolated_useAbove steps use).map (Prod.map Reply.used (desk.withAccessor place))
  | useRoot place steps use =>
    simp only [perform]
    cases desk.sessions[place]? with
    | none => exact missing
    | some session =>
      dsimp only
      cases session.scope.accessor? with
      | none => exact missing
      | some accessor =>
        exact (accessor.isolated_useAbove steps use).map (Prod.map Reply.used fun after =>
          desk.withSession place (session.withScope { session.scope with accessor? := some after }))
  | text value =>
    exact isolated_of_look (fun host => (Reply.shown (host.display value), desk))
      fun alike => by rw [alike.display]
  | iterate value =>
    exact isolated_of_look (fun host => (Reply.elements (host.elements? value), desk))
      fun alike => by rw [alike.elements?]
  | slots object =>
    exact isolated_of_look (fun host => (Reply.slots (host.slots? object), desk))
      fun alike => by rw [alike.slots?]

/-- A run of requests is isolated from what the host holds. -/
theorem isolated_run (desk : Desk) (requests : List Request) :
    Isolated fun host => run host desk requests := by
  induction requests generalizing desk with
  | nil => exact isolated_of_look (fun _ => ([], desk)) fun _ => rfl
  | cons request requests ih =>
    exact (isolated_perform desk request).andThen fun first =>
      (ih first.2).map fun rest => (first.1 :: rest.1, rest.2)

/-- **Isolation.**  Two runs of the same requests on hosts that differ in the parts of exclusively
held instances alone give the same replies, leave the same desk and hosts that are alike again, and
change nothing that is held.  At every moment the instance members and methods of a held object
refuse to write, and its static members are served. -/
theorem run_of_alike {left right : Host} (alike : left.Alike right) (desk : Desk)
    (requests : List Request) :
    let first := run left desk requests
    let second := run right desk requests
    first.1 = second.1 ∧ first.2.Alike second.2 ∧
      (∀ object, left.borrowOf object ≠ .free →
        first.2.instance? object = left.instance? object ∧
          second.2.instance? object = right.instance? object) ∧
      ∀ accessor : Accessor, accessor.ServesStatics first.2 ∧ accessor.ServesStatics second.2 ∧
        (left.borrowOf accessor.object ≠ .free →
          accessor.RefusesWrites first.2 ∧ accessor.RefusesWrites second.2) := by
  have isolated := isolated_run desk requests
  have spares := isolated.spares
  refine ⟨isolated.answer alike, isolated.alike alike, ?_, ?_⟩
  · intro object held
    exact ⟨(spares left).held held, (spares right).held (alike.borrowOf ▸ held)⟩
  · intro accessor
    refine ⟨accessor.servesStatics _, accessor.servesStatics _, fun held => ?_⟩
    constructor
    · exact Accessor.refusesWrites_of_held ((spares left).borrowOf ▸ held)
    · exact Accessor.refusesWrites_of_held ((spares right).borrowOf ▸ alike.borrowOf ▸ held)

/-- Two instances of one type, the first held exclusively and the second for reading.  What the
name of the first is does not show; that of the second can be read and not written.  The static
member they share can be written through the first and read through the second. -/
theorem run_of_alike_two_instances :
    let name := Member.ofFormula "name" false (.slot "name") (some ⟨"name", none⟩)
    let count := Member.ofFormula "count" true (.slot "count") (some ⟨"count", none⟩)
    let type := HostType.extend .root ⟨"Dog", 1, [name, count], [], [], none, none, true⟩
    let rex : Instance := ⟨type, [[("name", .string "Rex")]], .shared⟩
    let host (slots : Slots) : Host := ⟨[⟨type, [slots], .exclusive⟩, rex], []⟩
    let requests : List Request :=
      [.startAccessor ⟨0⟩, .startAccessor ⟨1⟩, .use 0 0 (.get .field .all "name"), .slots ⟨0⟩,
        .use 1 0 (.set .field .all "name" (.string "Max")),
        .use 0 0 (.set .field .all "count" (.bool true)), .use 1 0 (.get .field .all "count"),
        .use 1 0 (.get .field .all "name")]
    (host []).Alike (host [("name", .string "Fido")]) ∧
      (run (host [("name", .string "Fido")]) ⟨[], []⟩ requests).1.1 =
        [.started, .started, .used (some (.found none)), .slots none, .used (some (.taken false)),
          .used (some (.taken true)), .used (some (.found (some (.bool true)))),
          .used (some (.found (some (.string "Rex"))))] ∧
      (run (host [("name", .string "Fido")]) ⟨[], []⟩ requests).2.instance? ⟨1⟩ = some rex := by
  intro name count type rex host requests
  have alike : (host []).Alike (host [("name", .string "Fido")]) :=
    ⟨.cons ⟨rfl, rfl, fun reachable => absurd rfl reachable⟩ (.cons (.refl rex) .nil), rfl⟩
  obtain ⟨same, -, held, -⟩ := run_of_alike alike ⟨[], []⟩ requests
  refine ⟨alike, ?_, (held ⟨1⟩ (by decide)).2⟩
  rw [← congrArg Prod.fst same]
  rfl

end Desk

end Stencil
