import Stencil.Host.Formula
import Stencil.Proofs.Accessor.Calling
import Stencil.Proofs.Accessor.Chain

/-!
# Tables are built once

An accessor is called over and over, itself or by way of its parents, while the host
changes between the calls.  The events of a call are the records of the tables that it
consults and that neither were there at the start nor have been consulted by an earlier
call.  So each table is built once, by the first call that consults it.  What a call comes
to does not depend on the tables: it is what the same call on a new accessor comes to
(`Accessor.tables_built_once`).
-/

set_option autoImplicit false

namespace Stencil.Accessor

variable (host : Host) (accessor : Accessor)

/-! ## Runs of calls -/

/-- The accessor after requests one after the other. -/
def afterAll (accessor : Accessor) : List Request → Accessor
  | [] => accessor
  | request :: requests => afterAll (accessor.respond request).value.2 requests

/-- The events of requests one after the other. -/
def eventsOf (accessor : Accessor) : List Request → List Event
  | [] => []
  | request :: requests =>
    (accessor.respond request).events ++ eventsOf (accessor.respond request).value.2 requests

/-- The tables that requests consult. -/
def consultedBy (declarations : List Declaration) (requests : List Request) : List TableAt :=
  requests.flatMap (·.consults declarations)

theorem sameMembers_afterAll (requests : List Request) :
    (accessor.afterAll requests).SameMembers accessor := by
  induction requests generalizing accessor with
  | nil => exact .refl accessor
  | cons request requests ih => exact (ih _).trans (accessor.sameMembers_respond request)

/-- The tables that are there after a run are those that were there before and those consulted. -/
theorem builtIn_afterAll (requests : List Request) (place : TableAt) :
    builtIn (accessor.afterAll requests).links place =
      (builtIn accessor.links place ||
        decide (place ∈ consultedBy accessor.declarations requests)) := by
  induction requests generalizing accessor with
  | nil => simp [afterAll, consultedBy]
  | cons request requests ih =>
    rw [afterAll, ih, (accessor.sameMembers_respond request).declarations, builtIn_respond,
      consultedBy, consultedBy, List.flatMap_cons]
    simp [Bool.or_assoc]

theorem nodup_consults (declarations : List Declaration) (request : Request) :
    (request.consults declarations).Nodup := by
  have raise_injective (steps : Nat) : Function.Injective (TableAt.raise steps) := by
    rintro ⟨table, level⟩ ⟨table', level'⟩ same
    simpa [TableAt.raise] using same
  apply List.Nodup.map (raise_injective request.steps)
  rw [Call.consults]
  cases request.call.consultation? request.host with
  | none => exact .nil
  | some search => exact nodup_withinReach ..

/-- Over a whole run each table is built at most once, and the tables that are built are those that
were not there and are consulted. -/
theorem exists_eventsOf (requests : List Request) :
    ∃ places : List TableAt, places.Nodup ∧
      accessor.eventsOf requests = places.map (TableAt.record accessor.declarations) ∧
      ∀ place, place ∈ places ↔
        builtIn accessor.links place = false ∧
          place ∈ consultedBy accessor.declarations requests := by
  induction requests generalizing accessor with
  | nil => exact ⟨[], .nil, rfl, by simp [consultedBy]⟩
  | cons request requests ih =>
    obtain ⟨later, distinct, events, among⟩ := ih (accessor.respond request).value.2
    rw [(accessor.sameMembers_respond request).declarations] at events among
    simp only [builtIn_respond, Bool.or_eq_false_iff, decide_eq_false_iff_not] at among
    refine ⟨(request.consults accessor.declarations).filter (!builtIn accessor.links ·) ++ later,
      ?_, ?_, ?_⟩
    · apply List.Nodup.append ((nodup_consults _ request).filter _) distinct
      intro place now again
      exact ((among place).mp again).1.2 (List.mem_of_mem_filter now)
    · rw [eventsOf, events, events_respond, List.map_append]
      rfl
    · intro place
      have first : consultedBy accessor.declarations (request :: requests) =
          request.consults accessor.declarations ++ consultedBy accessor.declarations requests :=
        List.flatMap_cons
      rw [List.mem_append, List.mem_filter, among, first, List.mem_append, Bool.not_eq_true']
      tauto

/-! ## Built once -/

/-- A search consults a type: the one it starts at, or a supertype of that if it goes on to
supertypes and no type before has an answer. -/
structure Consultation.Reaches (search : Consultation) (declarations : List Declaration)
    (start level : Nat) : Prop where
  start_le : start ≤ level
  exists_type : level < declarations.length
  inherited : level ≠ start → search.inherited = true
  unanswered : ∀ declaration ∈ (declarations.take level).drop start,
    search.answers declaration = false

/-- A request consults the tables that its search reaches. -/
theorem Request.mem_consults_iff {declarations : List Declaration} {request : Request}
    {place : TableAt} :
    place ∈ request.consults declarations ↔
      ∃ search, request.call.consultation? request.host = some search ∧
        place.table = search.table ∧ search.Reaches declarations request.steps place.level := by
  rw [consults, mem_map_raise, Call.consults]
  cases request.call.consultation? request.host with
  | none => simp
  | some search =>
    simp only [Consultation.places, mem_withinReach, lt_reach_iff, List.length_drop,
      ← List.drop_take, Option.some.injEq, exists_eq_left']
    constructor
    · rintro ⟨start_le, table, exists_type, inherited, unanswered⟩
      exact ⟨table, start_le, by omega, fun farther => inherited (by omega), unanswered⟩
    · rintro ⟨table, start_le, exists_type, inherited, unanswered⟩
      exact ⟨start_le, table, by omega, fun farther => inherited (by omega), unanswered⟩

theorem builtIn_new (object : Handle) (place : TableAt) :
    builtIn (new host object).links place = false := by
  have links : (new host object).links = (host.typeOf object).chain.map .ofDeclaration := rfl
  obtain ⟨table, level⟩ := place
  rw [builtIn, links, List.getElem?_map, Option.any_map]
  cases (host.typeOf object).chain[level]? with
  | none => rfl
  | some declaration => rcases table with (_ | _) | _ <;> rfl

variable {host accessor} {object : Handle}

/-- At every point of a run a request is answered as by a new accessor. -/
theorem respond_afterAll_eq_new (of : Of host object accessor) (before : List Request)
    (request : Request) (stable : request.host.typeOf object = host.typeOf object) :
    ((accessor.afterAll before).respond request).value.1 =
      ((new request.host object).respond
        { request with steps := accessor.steps + request.steps }).value.1 := by
  have same := accessor.sameMembers_afterAll before
  apply reply_eq
  · rfl
  · rfl
  · exact same.object.trans of.object_eq
  · rw [same.steps]
    exact (Nat.zero_add _).symm
  · rw [same.declarations, of.declarations, Of.declarations_new, stable, List.drop_drop]

/-- At every point of a run a request builds the tables that it is the first to consult, but for those
that were there before the run. -/
theorem events_respond_afterAll (before : List Request) (request : Request) :
    ((accessor.afterAll before).respond request).events =
      ((request.consults accessor.declarations).filter fun place =>
        !builtIn accessor.links place && place ∉ consultedBy accessor.declarations before).map
        (TableAt.record accessor.declarations) := by
  have same := accessor.sameMembers_afterAll before
  rw [events_respond, buildEvents, same.declarations]
  simp only [builtIn_afterAll, Bool.not_or, ← decide_not]
  exact congrArg (fun declarations => List.map (TableAt.record declarations) _) same.declarations

/-- Tables are built once, and when they are built does not matter. -/
structure BuildsOnce (host : Host) (object : Handle) (accessor : Accessor)
    (requests : List Request) : Prop where
  /-- A new accessor has no table. -/
  fresh : ∀ place, builtIn (new host object).links place = false
  /-- Which tables a request consults. -/
  consults : ∀ (request : Request) (place : TableAt),
    place ∈ request.consults accessor.declarations ↔
      ∃ search, request.call.consultation? request.host = some search ∧
        place.table = search.table ∧
        search.Reaches accessor.declarations request.steps place.level
  /-- A request builds the tables that it is the first to consult. -/
  first : ∀ before request later, requests = before ++ request :: later →
    ((accessor.afterAll before).respond request).events =
      ((request.consults accessor.declarations).filter fun place =>
        !builtIn accessor.links place && place ∉ consultedBy accessor.declarations before).map
        (TableAt.record accessor.declarations)
  /-- Over the whole run no table is built twice. -/
  once : ∃ places : List TableAt, places.Nodup ∧
    accessor.eventsOf requests = places.map (TableAt.record accessor.declarations) ∧
    ∀ place, place ∈ places ↔
      builtIn accessor.links place = false ∧ place ∈ consultedBy accessor.declarations requests
  /-- A request comes to what it comes to on a new accessor. -/
  answers : ∀ before request later, requests = before ++ request :: later →
    ((accessor.afterAll before).respond request).value.1 =
      ((new request.host object).respond
        { request with steps := accessor.steps + request.steps }).value.1

/-- **Tables are built once.**  However an accessor and its parents are called and however the host
changes in between, where objects keep their types: every table is built by the first call that
consults it and by no other, and every call comes to what it comes to on a new accessor. -/
theorem tables_built_once (of : Of host object accessor) (requests : List Request)
    (stable : ∀ request ∈ requests, request.host.typeOf object = host.typeOf object) :
    BuildsOnce host object accessor requests where
  fresh := builtIn_new host object
  consults _ _ := Request.mem_consults_iff
  first before request _ _ := events_respond_afterAll before request
  once := accessor.exists_eventsOf requests
  answers before request later run := by
    apply respond_afterAll_eq_new of
    apply stable
    rw [run]
    exact List.mem_append_right _ List.mem_cons_self

/-- A puppy and its parents are called while the puppy is held, written and held again. -/
theorem tables_built_once_interleaved :
    let animal : Declaration :=
      { Declaration.root with
        name := "Animal"
        properties := [.ofFormula "kind" true (.constant (.string "animal")) none] }
    let dog : Declaration :=
      { Declaration.root with
        name := "Dog"
        fields := [.ofFormula "legs" false (.slot "legs") (some ⟨"legs", none⟩)]
        methods := [.ofFormula "bark" [] true (.constant (.string "woof")) none] }
    let puppy : Declaration := { Declaration.root with name := "Puppy" }
    let object : Handle := ⟨0⟩
    let host : Host :=
      ⟨[⟨.extend (.extend (.extend .root animal) dog) puppy, [[], [("legs", .int 4)]], .free⟩], []⟩
    let held := host.withBorrow object .exclusive
    let changed := host.withPart object 1 [("legs", .int 3)]
    let accessor := Accessor.new host object
    let kind : Call := .ask (.get .property .all "kind")
    let before : List Request :=
      [⟨host, 0, .ask (.get .field .all "legs")⟩,
        ⟨held, 1, .ask (.set .field .own "legs" (.int 5))⟩,
        ⟨changed, 1, kind⟩,
        ⟨changed, 0, .ask (.invoke .all "bark" [])⟩,
        ⟨held, 1, .ask (.invoke .own "bark" [])⟩,
        ⟨changed, 0, .ask (.members .all)⟩,
        ⟨changed, 0, .parent⟩]
    BuildsOnce host object accessor (before ++ [⟨held, 0, kind⟩]) ∧
      accessor.eventsOf (before ++ [⟨held, 0, kind⟩]) =
        [.indexed .field "Puppy", .indexed .field "Dog", .indexed .property "Dog",
          .indexed .property "Animal", .indexedMethods "Puppy", .indexedMethods "Dog",
          .indexed .property "Puppy"] ∧
      ((accessor.afterAll before).respond ⟨held, 0, kind⟩).value.1 =
        some (.used (.found (some (.string "animal"))), held) := by
  intro animal dog puppy object host held changed accessor kind before
  have builds : BuildsOnce host object accessor (before ++ [⟨held, 0, kind⟩]) := by
    refine tables_built_once .new _ ?_
    intro request member
    simp only [before, List.cons_append, List.nil_append, List.mem_cons, List.not_mem_nil,
      or_false] at member
    rcases member with rfl | rfl | rfl | rfl | rfl | rfl | rfl | rfl <;> rfl
  refine ⟨builds, by decide +kernel, ?_⟩
  exact (builds.answers before ⟨held, 0, kind⟩ [] rfl).trans rfl

end Stencil.Accessor
