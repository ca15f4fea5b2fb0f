import Stencil.Host.Formula
import Stencil.Proofs.Render.Script
import Stencil.Proofs.Scope.Tree
import Stencil.Proofs.Session.Transparency

/-!
# A name on the way is frozen, a name at the end is live

While a session is used the host goes its own way: it writes slots, static ones too, and
holds instances and lets them go.  What a session does is taken apart into looking paths
up, binding names and taking bindings away, also inside of a rendering, so that there is
a moment between any two of these and between them and the changes of the host.

The first path that goes through an unbound name makes a node for it, whose value is
what the name stood for then.  From that moment on the node is there, has that value and
no bindings, and every later path through the name is followed in it; a path that ends
with the name reads what it stands for now (`Moment.Frozen`,
`Session.frozen_of_goesThrough`).  Two invariants carry this: the scope stays sound, and
every step extends its tree.
-/

set_option autoImplicit false

namespace Stencil

/-! ## Changes of the host -/

/-- New parts, borrows and static slots.  What type an instance has never changes. -/
structure Host.Change where
  parts : Handle → List Slots
  borrow : Handle → Borrow
  statics : List Slots

/-- The host after a change. -/
def Host.changed (host : Host) (change : Change) : Host where
  instances := host.instances.mapIdx fun index found =>
    { found with parts := change.parts ⟨index⟩, borrow := change.borrow ⟨index⟩ }
  statics := change.statics

theorem Host.typeOf_changed (host : Host) (change : Change) :
    (host.changed change).typeOf = host.typeOf := by
  funext handle
  simp only [typeOf, instance?, changed, List.getElem?_mapIdx]
  cases host.instances[handle.index]? <;> rfl

/-! ## Moments -/

/-- A state of the host with the state of a scope. -/
structure Moment where
  host : Host
  scope : Scope

/-- What leads from one moment to the next. -/
inductive Step
  | act (act : Act)
  | change (change : Host.Change)

namespace Moment

/-- The moment when a scope is made. -/
def start (host : Host) (root : Value) : Moment :=
  ⟨host, .new host root⟩

/-- The moment after a step. -/
def after (moment : Moment) : Step → Moment
  | .act act => ⟨moment.host, act.apply moment.host moment.scope⟩
  | .change change => ⟨moment.host.changed change, moment.scope⟩

/-- The moment after some steps. -/
def afterAll (moment : Moment) (steps : List Step) : Moment :=
  steps.foldl after moment

theorem afterAll_append (moment : Moment) (first second : List Step) :
    moment.afterAll (first ++ second) = (moment.afterAll first).afterAll second :=
  List.foldl_append

/-- What every step keeps holds after some steps. -/
theorem afterAll_of_after (Holds : Moment → Prop)
    (keeps : ∀ moment step, Holds moment → Holds (moment.after step)) {moment : Moment}
    (holds : Holds moment) (steps : List Step) : Holds (moment.afterAll steps) := by
  induction steps generalizing moment with
  | nil => exact holds
  | cons step steps ih => exact ih (keeps moment step holds)

/-- No step changes what type an instance has. -/
theorem typeOf_after (moment : Moment) (step : Step) :
    (moment.after step).host.typeOf = moment.host.typeOf := by
  cases step with
  | act act => rfl
  | change change => exact moment.host.typeOf_changed change

/-- What a text leads to as a path. -/
def read (moment : Moment) (text : String) : Option Value :=
  (moment.scope.resolve moment.host text).value.1

/-- A step looks up a path that goes through a name below the node at an address, and the first name
of that path is not bound. -/
def GoesThrough (moment : Moment) (step : Step) (address : List String) (name : String) : Prop :=
  ∃ text rest, step = .act (.look text) ∧
    Path.ofText (Text.trim text.toList) = .through address (.step name rest) ∧
    moment.scope.Free (address ++ [name])

/-- There is a node for a name below the node of a value, with a value of its own and no bindings.
Paths through the name are followed in that node.  A path that ends with the name reads the member
of the value above as it is at the moment. -/
structure Frozen (moment : Moment) (address : List String) (name : String)
    (above value : Value) : Prop where
  kept : ∃ node, moment.scope.node? (address ++ [name]) = some node ∧ node.value = value ∧
    node.locals = [] ∧ ∀ text rest,
      Path.ofText (Text.trim text.toList) = .through address (.step name rest) →
      moment.scope.Free (address ++ [name]) →
        moment.read text = (Scope.follow moment.host rest node).value.1
  live : ∃ node, moment.scope.node? address = some node ∧ node.value = above ∧ ∀ text,
      Path.ofText (Text.trim text.toList) = .through address (.name name) →
      moment.scope.Free (address ++ [name]) →
        moment.read text = above.member? moment.host name

/-! ## The invariants -/

open Scope (Extends Sound)

variable {moment : Moment}

/-- The scope of a moment is sound. -/
def IsSound (moment : Moment) : Prop :=
  Sound moment.host moment.scope

theorem isSound_start (host : Host) (root : Value) : (start host root).IsSound :=
  .new root

theorem IsSound.after (sound : moment.IsSound) (step : Step) : (moment.after step).IsSound := by
  rw [IsSound] at sound
  cases step with
  | act act =>
    cases act with
    | look text =>
      rw [IsSound, Moment.after, Act.apply, Scope.value_resolve]
      exact sound.follow _
    | push name value => exact sound.push name value
    | pop name value => exact sound.pop name value
  | change change => exact sound.of_typeOf (moment.host.typeOf_changed change)

theorem IsSound.afterAll (sound : moment.IsSound) (steps : List Step) :
    (moment.afterAll steps).IsSound :=
  afterAll_of_after IsSound (fun _ step before => before.after step) sound steps

/-- A step extends the tree. -/
theorem extends_after (moment : Moment) (step : Step) :
    moment.scope.Extends (moment.after step).scope := by
  cases step with
  | act act =>
    cases act with
    | look text =>
      rw [Moment.after, Act.apply, Scope.value_resolve]
      exact Scope.extends_follow _ moment.scope
    | push name value => exact .of_children rfl rfl
    | pop name value =>
      exact .of_children (Scope.value_pop _ name value) (Scope.children_pop _ name value)
  | change change => exact .refl _

/-- The root of the tree keeps its value. -/
theorem value_after (moment : Moment) (step : Step) :
    (moment.after step).scope.value = moment.scope.value := by
  obtain ⟨later, found, same⟩ := moment.extends_after step [] moment.scope rfl
  obtain rfl := Option.some.inj found
  exact same

theorem extends_afterAll (moment : Moment) (steps : List Step) :
    moment.scope.Extends (moment.afterAll steps).scope :=
  afterAll_of_after (fun later => moment.scope.Extends later.scope)
    (fun later step grows => grows.trans (later.extends_after step)) (.refl _) steps

/-! ## Nodes along a run -/

/-- A step makes no node but by a path that goes through its name. -/
theorem node?_of_after {step : Step} {address : List String} {name : String} {node : Scope}
    (found : (moment.after step).scope.node? (address ++ [name]) = some node) :
    (∃ earlier, moment.scope.node? (address ++ [name]) = some earlier) ∨
      moment.GoesThrough step address name := by
  have below : address ++ [name] ≠ [] := by simp
  cases step with
  | act act =>
    cases act with
    | look text =>
      rw [Moment.after, Act.apply, Scope.value_resolve] at found
      rcases Scope.node?_of_follow below found with
        earlier | ⟨address', name', rest, same, path, free⟩
      · exact .inl earlier
      · obtain ⟨rfl, last⟩ := List.append_inj' same rfl
        obtain rfl : name = name' := by simpa using last
        exact .inr ⟨text, rest, rfl, path, free⟩
    | push bound value =>
      have children : (moment.scope.push bound value).children = moment.scope.children := rfl
      exact .inl ⟨node, (Scope.node?_of_children children below).symm.trans found⟩
    | pop bound value =>
      have same := Scope.node?_of_children (Scope.children_pop moment.scope bound value) below
      exact .inl ⟨node, same.symm.trans found⟩
  | change change => exact .inl ⟨node, found⟩

/-- There is no node for a name that no path has gone through. -/
theorem node?_afterAll_eq_none {host : Host} {root : Value} {address : List String} {name : String}
    {steps : List Step}
    (never : ∀ before step behind, steps = before ++ step :: behind →
      ¬ ((start host root).afterAll before).GoesThrough step address name) :
    ((start host root).afterAll steps).scope.node? (address ++ [name]) = none := by
  induction steps using List.reverseRecOn with
  | nil => cases address <;> rfl
  | append_singleton steps step ih =>
    have absent := ih fun before other behind split =>
      never before other (behind ++ [step]) (by simp [split])
    by_contra present
    obtain ⟨node, found⟩ := Option.ne_none_iff_exists'.mp present
    rw [afterAll_append] at found
    rcases node?_of_after found with ⟨earlier, here⟩ | goes
    · rw [absent] at here
      cases here
    · exact never steps step [] rfl goes

/-- A path that goes through a name makes a node for it, with the member of the value above unless
the node is there already. -/
theorem GoesThrough.exists_node (sound : moment.IsSound) {step : Step} {address : List String}
    {name : String} (goes : moment.GoesThrough step address name) :
    ∃ above node, (moment.after step).scope.node? address = some above ∧
      (moment.after step).scope.node? (address ++ [name]) = some node ∧
      (moment.scope.node? (address ++ [name]) = none →
        node.value = (above.value.member? moment.host name).getD .null) := by
  obtain ⟨text, rest, rfl, path, free⟩ := goes
  rw [after, Act.apply, Scope.value_resolve, path]
  exact Scope.node?_follow sound free rest

/-- While there is a node for a name below the node of a value, it is frozen. -/
theorem IsSound.frozen (sound : moment.IsSound) {address : List String} {name : String}
    {above node : Scope} (foundAbove : moment.scope.node? address = some above)
    (found : moment.scope.node? (address ++ [name]) = some node) :
    moment.Frozen address name above.value node.value where
  kept := by
    refine ⟨node, found, rfl, sound.locals_node? found, fun text rest path free => ?_⟩
    rw [← Path.through_append] at path
    rw [read, Scope.value_resolve, path, Scope.value_follow_through sound free found]
  live := by
    refine ⟨above, foundAbove, rfl, fun text path free => ?_⟩
    have unbound : above.local? name = none := sound.free_node? free foundAbove name rfl
    rw [read, Scope.value_resolve, path,
      Scope.value_follow_through sound free.of_append foundAbove]
    exact Scope.value_follow_name (Scope.Sound.node? sound foundAbove) unbound

/-- A node that has been made for a name is frozen from then on. -/
theorem IsSound.frozen_afterAll (sound : moment.IsSound) {address : List String} {name : String}
    {above node : Scope} (foundAbove : moment.scope.node? address = some above)
    (found : moment.scope.node? (address ++ [name]) = some node) (steps : List Step) :
    (moment.afterAll steps).Frozen address name above.value node.value := by
  have grows := moment.extends_afterAll steps
  obtain ⟨laterAbove, foundAbove, sameAbove⟩ := grows address above foundAbove
  obtain ⟨later, found, same⟩ := grows _ node found
  exact sameAbove ▸ same ▸ (sound.afterAll steps).frozen foundAbove found

end Moment

/-! ## Sessions and their steps -/

namespace Session

/-- What happens to a session. -/
inductive Happening
  | call (call : Call)
  | change (change : Host.Change)

/-- The acts of a call, in order. -/
def acts (host : Host) (session : Session) : Call → List Act
  | .render text =>
    (Template.Node.scriptAll host session.strict (Template.parse text.toList)).acts host
      session.scope
  | .resolve text => [.look text]
  | .display text => [.look text]
  | .push name value => [.push name value]
  | .pop name value => [.pop name value]
  | .setStrict _ => []

/-- The host and the session after what happens. -/
def live (host : Host) (session : Session) : List Happening → Host × Session
  | [] => (host, session)
  | .call call :: happenings => live host (session.perform host call).2 happenings
  | .change change :: happenings => live (host.changed change) session happenings

/-- The steps of what happens, in order. -/
def steps (host : Host) (session : Session) : List Happening → List Step
  | [] => []
  | .call call :: happenings =>
    (session.acts host call).map .act ++ steps host (session.perform host call).2 happenings
  | .change change :: happenings => .change change :: steps (host.changed change) session happenings

/-- A call leaves the scope that its acts lead to. -/
theorem scope_perform (host : Host) (session : Session) (call : Call) :
    (session.perform host call).2.scope =
      (session.acts host call).foldl (Act.apply host) session.scope := by
  cases call with
  | render text =>
    have describes := Template.Node.describes_scriptAll host session.strict
      (Template.parse text.toList) session.scope
    simp only [perform, acts, value_render, describes, Script.scope_run]
  | display text =>
    simp only [perform, withScope, Scope.value_display, acts, List.foldl_cons, List.foldl_nil,
      Act.apply]
  | resolve text =>
    simp only [perform, withScope, acts, List.foldl_cons, List.foldl_nil, Act.apply]
  | push name value => rfl
  | pop name value => rfl
  | setStrict strict => rfl

theorem afterAll_acts (moment : Moment) (acts : List Act) :
    moment.afterAll (acts.map .act) =
      ⟨moment.host, acts.foldl (Act.apply moment.host) moment.scope⟩ := by
  induction acts generalizing moment with
  | nil => rfl
  | cons act acts ih => exact ih _

/-- What happens leaves the host and the scope that its steps lead to. -/
theorem afterAll_steps (host : Host) (session : Session) (happenings : List Happening) :
    Moment.afterAll ⟨host, session.scope⟩ (session.steps host happenings) =
      ⟨(session.live host happenings).1, (session.live host happenings).2.scope⟩ := by
  induction happenings generalizing host session with
  | nil => rfl
  | cons happening happenings ih =>
    cases happening with
    | call call =>
      rw [steps, live, Moment.afterAll_append, afterAll_acts, ← scope_perform]
      exact ih host _
    | change change => exact ih (host.changed change) session

/-- What holds of a session with its host and is kept by every step holds whatever happens. -/
theorem live_of_after (Holds : Moment → Prop)
    (keeps : ∀ moment step, Holds moment → Holds (moment.after step)) {host : Host}
    {session : Session} (holds : Holds ⟨host, session.scope⟩) (happenings : List Happening) :
    Holds ⟨(session.live host happenings).1, (session.live host happenings).2.scope⟩ := by
  rw [← afterAll_steps]
  exact Moment.afterAll_of_after Holds keeps holds _

theorem value_live (host : Host) (session : Session) (happenings : List Happening) :
    (session.live host happenings).2.scope.value = session.scope.value := by
  apply live_of_after fun moment => moment.scope.value = session.scope.value
  · intro moment step before
    exact (moment.value_after step).trans before
  · rfl

/-- **Frozen and live names.**  Take any calls of a new session and any changes of the host between
them, down to the single steps.  When a path goes through a name whose first name is not bound,
there is a node for it from then on: at every later moment it has the same value and no bindings,
paths through the name are followed in it, and paths that end with the name read the member as it
is at that moment.  If no path went through the name before, the value is the member found then, or
nothing.  A path whose first name is bound leaves the scope as it is. -/
theorem frozen_of_goesThrough (host : Host) (root : Value) (happenings : List Happening) :
    let start := Moment.start host root
    let steps := (new host root).steps host happenings
    let last := (new host root).live host happenings
    start.afterAll steps = ⟨last.1, last.2.scope⟩ ∧
      (∀ earlier step later address name, steps = earlier ++ step :: later →
        (start.afterAll earlier).GoesThrough step address name →
          ∃ above value,
            ((∀ before other behind, earlier = before ++ other :: behind →
                ¬ (start.afterAll before).GoesThrough other address name) →
              value = (above.member? (start.afterAll earlier).host name).getD .null) ∧
            ∀ between rest, later = between ++ rest →
              (start.afterAll (earlier ++ step :: between)).Frozen address name above value) ∧
      ∀ earlier text later name bound, steps = earlier ++ .act (.look text) :: later →
        (Path.ofText (Text.trim text.toList)).head? = some name →
        (start.afterAll earlier).scope.local? name = some bound →
          (start.afterAll (earlier ++ [.act (.look text)])).scope =
            (start.afterAll earlier).scope := by
  intro start steps last
  have sound (steps : List Step) : (start.afterAll steps).IsSound :=
    (Moment.isSound_start host root).afterAll steps
  refine ⟨afterAll_steps host (new host root) happenings, ?_, ?_⟩
  · intro earlier step later address name split goes
    obtain ⟨above, node, foundAbove, found, value⟩ := goes.exists_node (sound earlier)
    refine ⟨above.value, node.value, fun never => ?_, fun between rest _ => ?_⟩
    · exact value (Moment.node?_afterAll_eq_none never)
    · rw [Moment.afterAll_append]
      exact ((sound earlier).after step).frozen_afterAll foundAbove found between
  · intro earlier text later name bound split first found
    rw [Moment.afterAll_append, Moment.afterAll, List.foldl_cons, List.foldl_nil, Moment.after,
      Act.apply, Scope.value_resolve]
    exact Scope.follow_of_bound first found

/-- Three persons: the boss of the first is replaced between two readings. -/
example :
    let field (name : String) := Member.ofFormula name false (.slot name) none
    let type := HostType.extend .root
      ⟨"Person", 1, [field "boss", field "name"], [], [], none, none, true⟩
    let parts (boss person : Handle) : List Slots :=
      [[("boss", .object boss), ("name", .int (.ofNat person.index))]]
    let host : Host := ⟨(List.range 3).map fun person => ⟨type, parts ⟨1⟩ ⟨person⟩, .free⟩, []⟩
    let moment := (Moment.start host (.object ⟨0⟩)).afterAll
      [.act (.look "boss.name"), .change ⟨parts ⟨2⟩, fun _ => .free, []⟩]
    moment.read "boss.name" = some (.int 1) ∧ moment.read "boss" = some (.object ⟨2⟩) := by
  decide +kernel

end Session

end Stencil
