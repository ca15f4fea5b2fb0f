import Mathlib.Data.List.Forall2
import Stencil.Host.Formula
import Stencil.Proofs.Accessor.Address
import Stencil.Proofs.Accessor.Snapshot
import Stencil.Proofs.Accessor.Table

/-!
# Calls go to the first overload that fits

The methods of an object that a search goes through form one list: those of the bound type
and then, if the search goes on, those of each supertype, as they are declared
(`HostType.candidates`).  A call goes to the first of them that has the name, that the
search permits and whose parameters are the kinds of the arguments, one by one
(`Search.Selects`, `Accessor.invoke_first_selected`).

If that method belongs to the instance and the instance cannot be changed, the call gives
nothing and no other method is called.  What is not selected hides nothing: neither a
method of another name or other parameters nor one that the search does not permit.
-/

set_option autoImplicit false

namespace Stencil

/-- The methods that a search goes through, from the type that is so many steps up. -/
def HostType.candidates (type : HostType) (start : Nat) (search : Search) : List (Located Method) :=
  let levels := (type.chain.drop start).zipIdx start
  (if search.inherited then levels else levels.take 1).flatMap fun level =>
    level.1.methods.map fun method => ⟨level.2, level.1, method⟩

/-- A method takes certain arguments: each parameter is the kind of the argument in its place. -/
def Method.Takes (method : Method) (host : Host) (arguments : List Value) : Prop :=
  List.Forall₂ (fun parameter argument => parameter = host.kind argument) method.parameters
    arguments

/-- A method is one that a call by name with certain arguments may go to. -/
structure Search.Selects (search : Search) (host : Host) (name : String) (arguments : List Value)
    (method : Method) : Prop where
  named : method.name = name
  permitted : search.permits method.isStatic = true
  takes : method.Takes host arguments

theorem Method.takes_iff {method : Method} {host : Host} {arguments : List Value} :
    method.Takes host arguments ↔ method.parameters = arguments.map host.kind := by
  rw [Takes, ← List.forall₂_map_right_iff (R := (· = ·)), List.forall₂_eq_eq_eq]

theorem Search.selects_iff {search : Search} {host : Host} {name : String} {arguments : List Value}
    {method : Method} :
    search.Selects host name arguments method ↔
      (method.name = name && search.permits method.isStatic &&
        method.parameters = arguments.map host.kind) = true := by
  simp only [Bool.and_eq_true, decide_eq_true_eq, ← Method.takes_iff]
  exact ⟨fun selects => ⟨⟨selects.named, selects.permitted⟩, selects.takes⟩,
    fun ⟨⟨named, permitted⟩, takes⟩ => ⟨named, permitted, takes⟩⟩

namespace Accessor

variable {host : Host} {object : Handle} {accessor : Accessor}

/-- Searching type by type for an overload is searching the list of all candidates. -/
theorem Of.method?_eq_find? (of : Of host object accessor) (search : Search) (name : String)
    (kinds : List Kind) :
    accessor.method? search name kinds =
      ((host.typeOf object).candidates accessor.steps search).find? fun located =>
        located.found.name = name && search.permits located.found.isStatic &&
          located.found.parameters = kinds := by
  have types : accessor.declarations =
      accessor.bound.declaration :: accessor.ancestors.map Link.declaration := rfl
  rw [HostType.candidates, ← of.declarations, method?, types, locate_eq, List.find?_flatMap]
  simp only [List.find?_map]
  cases search.inherited <;> rfl

/-- The first selected candidate is what a call finds. -/
theorem Of.method?_eq_some (of : Of host object accessor) {search : Search} {name : String}
    {arguments : List Value} {before after : List (Located Method)} {located : Located Method}
    (split : (host.typeOf object).candidates accessor.steps search = before ++ located :: after)
    (passed : ∀ earlier ∈ before, ¬ search.Selects host name arguments earlier.found)
    (selected : search.Selects host name arguments located.found) :
    accessor.method? search name (arguments.map host.kind) = some located := by
  rw [of.method?_eq_find?, List.find?_eq_some_iff_append]
  refine ⟨Search.selects_iff.mp selected, before, after, split, fun earlier member => ?_⟩
  rw [Bool.not_eq_true', ← Bool.not_eq_true]
  exact fun selects => passed earlier member (Search.selects_iff.mpr selects)

/-- A candidate stands in the chain where it says. -/
theorem declares_of_mem_candidates {type : HostType} {start : Nat} {search : Search}
    {located : Located Method} (member : located ∈ type.candidates start search) :
    type.chain[located.steps]? = some located.declaration := by
  obtain ⟨⟨declaration, steps⟩, level, here⟩ := List.mem_flatMap.mp member
  obtain ⟨method, _, rfl⟩ := List.mem_map.mp here
  have all : (declaration, steps) ∈ (type.chain.drop start).zipIdx start := by
    split at level
    · exact level
    · exact List.mem_of_mem_take level
  rw [List.mem_zipIdx_iff_le_and_getElem?_sub, List.getElem?_drop] at all
  rw [← all.2, Nat.add_sub_cancel' all.1]

/-- **A call goes to the first overload that fits.**  By every accessor of an object, for every
search, a call goes to the first of the candidates that it selects: if its slots can be changed it
is run on them and its result returned, and otherwise the call gives nothing and the host stays as
it is.  So it does if no candidate is selected.  Asking the tables of overloads from parent to
parent comes to the same. -/
theorem invoke_first_selected (of : Of host object accessor) (search : Search) (name : String)
    (arguments : List Value) :
    let invoked := (accessor.invoke host search name arguments).value
    (∀ before located after,
      (host.typeOf object).candidates accessor.steps search = before ++ located :: after →
      (∀ earlier ∈ before, ¬ search.Selects host name arguments earlier.found) →
      search.Selects host name arguments located.found →
      (invoked.1, invoked.2.1) =
        if CanChange host object located.steps located.found.isStatic then
          Prod.map some id (host.runAt (located.spot located.found.isStatic object)
            (located.found.call · arguments))
        else (none, host)) ∧
    ((∀ located ∈ (host.typeOf object).candidates accessor.steps search,
        ¬ search.Selects host name arguments located.found) →
      (invoked.1, invoked.2.1) = (none, host)) ∧
    (invoked.1, invoked.2.1) =
      accessor.ask search.inherited (·.tabledOverload? search name (arguments.map host.kind))
        (fun object located => call host object located arguments) (none, host) := by
  obtain rfl := of.object_eq
  refine ⟨?_, ?_, invoke_eq_ask host accessor search name arguments⟩
  · intro before located after split passed selected
    have found := of.method?_eq_some split passed selected
    have declares := declares_of_mem_candidates (split ▸ List.mem_append_cons_self)
    rw [← call_eq declares, value_invoke]
    simp only [found]
  · intro nothing
    have missing : accessor.method? search name (arguments.map host.kind) = none := by
      rw [of.method?_eq_find?, List.find?_eq_none]
      exact fun located member selects => nothing located member (Search.selects_iff.mpr selects)
    rw [value_invoke]
    simp only [missing]

/-- A dog that the host holds for reading is greeted.  A search for static methods passes by what is
meant for animals and by the dog's own greeting, and calls the one that all animals share.  A search
for all methods stops at the dog's own greeting, which cannot be called. -/
theorem invoke_first_selected_greeting :
    let shared : Method :=
      .ofFormula "greet" [.object "Dog"] true (.constant (.string "a dog"))
        (some ("greeted", .constant (.bool true)))
    let general : Method :=
      .ofFormula "greet" [.object "Animal"] true (.constant (.string "an animal")) none
    let own : Method :=
      .ofFormula "greet" [.object "Dog"] false (.constant (.string "Rex")) none
    let animal : Declaration := { Declaration.root with name := "Animal", methods := [shared] }
    let dog : Declaration :=
      { Declaration.root with name := "Dog", statics := 1, methods := [general, own] }
    let host : Host := ⟨[⟨.extend (.extend .root animal) dog, [], .shared⟩], [[], []]⟩
    let rex : Handle := ⟨0⟩
    let greeted (search : Search) :=
      ((Accessor.new host rex).invoke host search "greet" [.object rex]).value
    Of host rex (Accessor.new host rex) ∧
    (host.typeOf rex).candidates 0 .all = [⟨0, dog, general⟩, ⟨0, dog, own⟩, ⟨1, animal, shared⟩] ∧
    (greeted Search.all.statics).1 = some (.string "a dog") ∧
    (greeted Search.all.statics).2.1.slotsAt (.statics 0) = [("greeted", .bool true)] ∧
    (greeted .all).1 = none ∧ (greeted .all).2.1 = host := by
  intro shared general own animal dog host rex greeted
  have of : Of host rex (Accessor.new host rex) := .new
  have listed : (host.typeOf rex).candidates 0 .all =
      [⟨0, dog, general⟩, ⟨0, dog, own⟩, ⟨1, animal, shared⟩] := rfl
  have static := (invoke_first_selected of Search.all.statics "greet" [.object rex]).1
    [⟨0, dog, general⟩, ⟨0, dog, own⟩] ⟨1, animal, shared⟩ [] listed
    (by
      intro earlier member
      rw [Search.selects_iff]
      simp only [List.mem_cons, List.not_mem_nil, or_false] at member
      rcases member with rfl | rfl <;> decide +kernel)
    (Search.selects_iff.mpr (by decide +kernel))
  have instanceOwn := (invoke_first_selected of Search.all "greet" [.object rex]).1
    [⟨0, dog, general⟩] ⟨0, dog, own⟩ [⟨1, animal, shared⟩] listed
    (by
      intro earlier member
      rw [Search.selects_iff]
      obtain rfl := List.mem_singleton.mp member
      decide +kernel)
    (Search.selects_iff.mpr (by decide +kernel))
  exact ⟨of, listed, congrArg Prod.fst static,
    congrArg (fun called => called.2.slotsAt (.statics 0)) static,
    congrArg Prod.fst instanceOwn, congrArg Prod.snd instanceOwn⟩

end Accessor

end Stencil
