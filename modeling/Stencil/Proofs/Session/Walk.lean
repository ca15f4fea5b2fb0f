import Stencil.Proofs.Scope.Walk
import Stencil.Proofs.Session.Freezing

/-!
# Plain data is read key by key

A session of plain data looks every path up as if it had just been made, whatever it was
used for before and whatever became of the host: what it keeps depends on nothing that
can change.  So a path of names walks from the root map, with the bindings of the moment
inserted over it, key by key through nested maps (`Session.resolve_walks`).  Blanks
around the path and the word for the value itself in front of it make no difference.
-/

set_option autoImplicit false

namespace Stencil

open Scope (Coherent)

/-- A step keeps the scope of a plain value coherent, even one of the host. -/
theorem Moment.coherent_after {moment : Moment} (coherent : Coherent moment.host moment.scope)
    (plain : moment.scope.value.IsPlain) (step : Step) :
    Coherent (moment.after step).host (moment.after step).scope := by
  cases step with
  | act act =>
    cases act with
    | look text =>
      rw [after, Act.apply]
      exact coherent.resolve text
    | push name value => exact coherent.push name value
    | pop name value => exact coherent.pop name value
  | change change => exact coherent.of_isPlain plain _

namespace Session

theorem coherent_live (host : Host) {root : Value} (plain : root.IsPlain)
    (happenings : List Happening) :
    let last := (new host root).live host happenings
    Coherent last.1 last.2.scope := by
  let Holds (moment : Moment) : Prop :=
    Coherent moment.host moment.scope ∧ moment.scope.value = root
  have keeps (moment : Moment) (step : Step) (holds : Holds moment) :
      Holds (moment.after step) := by
    obtain ⟨coherent, value⟩ := holds
    constructor
    · exact moment.coherent_after coherent (value ▸ plain) step
    · exact (moment.value_after step).trans value
  exact (live_of_after Holds keeps ⟨.new root, rfl⟩ happenings).1

/-- **Plain data is read key by key.**  In a session of a plain map whose bindings are plain, after
any use and any changes of the host, a path of names leads where its names lead as keys from the
root map with the bindings inserted over it, the oldest first.  It may have blanks around it and the
word for the value itself, in any case and with its point, in front of it. -/
theorem resolve_walks (host : Host) {entries : Entries Value}
    (plain : (Value.map entries).IsPlain) (happenings : List Happening) :
    let last := (new host (.map entries)).live host happenings
    let scope := last.2.scope
    (∀ binding ∈ scope.locals, binding.2.IsPlain) →
      ∀ segments : List String, segments ≠ [] →
        (∀ segment ∈ segments, '.' ∉ segment.toList ∧ ¬ Path.isThis segment.toList) →
          let path := (".".intercalate segments).toList
          let walked := Value.walk? (.map (entries.overlaid scope.locals)) segments
          Text.HasSolidEnds path →
            ∀ before after, Text.AllBlank before → Text.AllBlank after →
              (scope.resolve last.1 (.ofList (before ++ path ++ after))).value.1 = walked ∧
                ∀ word, Path.isThis word →
                  (scope.resolve last.1
                    (.ofList (before ++ (word ++ '.' :: path) ++ after))).value.1 = walked := by
  intro last scope plainLocals segments nonempty names path walked solid before after blankBefore
    blankAfter
  obtain ⟨first, rest, rfl⟩ := List.exists_cons_of_ne_nil nonempty
  have pieces : Text.split '.' path = (first.toList, rest.map String.toList) :=
    Scope.split_intercalate_toList fun segment member => (names segment member).1
  have others : ∀ segment ∈ rest, ¬ Path.isThis segment.toList :=
    fun segment member => (names segment (List.mem_cons_of_mem first member)).2
  have coherent : Coherent last.1 scope := coherent_live host plain happenings
  have value : scope.value = .map entries := value_live host (new host (.map entries)) happenings
  constructor
  · apply coherent.value_resolve_names value plain plainLocals others
    rw [Text.trim_append blankBefore blankAfter, Text.trim_of_hasSolidEnds solid, Path.ofText,
      pieces]
    exact Path.ofSegments_of_not_isThis (names first List.mem_cons_self).2 _
  · intro word isThis
    apply coherent.value_resolve_names value plain plainLocals others
    rw [Text.trim_append blankBefore blankAfter, Text.trim_append_cons (by decide),
      Path.trimStart_of_isThis isThis, Text.trimEnd_of_hasSolidEnds solid,
      Path.ofText_append_point (Path.point_not_mem_of_isThis isThis), if_pos isThis, pieces]

/-- A session of a user and a site, used before and with another user bound over the first. -/
theorem resolve_walks_bound :
    let host : Host := ⟨[], []⟩
    let entries : Entries Value :=
      [("user", .map [("name", .string "Bob"), ("age", .int 42)]), ("site", .map [("", .int 1)])]
    let user : Value := .map [("name", .string "Eve")]
    let happenings : List Happening :=
      [.call (.resolve "user.age"), .call (.push "user" user), .call (.resolve "user.age.years")]
    let scope := ((new host (.map entries)).live host happenings).2.scope
    (scope.resolve host "\n This.user.name ").value.1 = some (.string "Eve") ∧
      (scope.resolve host "user.age").value.1 = none ∧
      (scope.resolve host "site.").value.1 = some (.int 1) := by
  intro host entries user happenings scope
  have plain : (Value.map entries).IsPlain := by
    refine .map ?_
    simp only [entries, List.forall_mem_cons]
    refine ⟨.map ?_, .map ?_, List.forall_mem_nil _⟩
    · simp only [List.forall_mem_cons]
      exact ⟨.string "Bob", .int 42, List.forall_mem_nil _⟩
    · simp only [List.forall_mem_cons]
      exact ⟨.int 1, List.forall_mem_nil _⟩
  have locals : scope.locals = [("user", user)] := rfl
  have plainLocals : ∀ binding ∈ scope.locals, binding.2.IsPlain := by
    rw [locals, List.forall_mem_cons]
    refine ⟨.map ?_, List.forall_mem_nil _⟩
    rw [List.forall_mem_singleton]
    exact .string "Eve"
  have walks := resolve_walks host plain happenings plainLocals
  refine ⟨?_, ?_, ?_⟩
  · exact (walks ["user", "name"] (by simp) (by decide) (by decide) "\n ".toList " ".toList
      (by decide) (by decide)).2 "This".toList (by decide)
  · exact (walks ["user", "age"] (by simp) (by decide) (by decide) [] []
      (by decide) (by decide)).1
  · exact (walks ["site", ""] (by simp) (by decide) (by decide) [] []
      (by decide) (by decide)).1

end Session

end Stencil
