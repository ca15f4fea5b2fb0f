import Stencil.Proofs.Scope.Absence
import Stencil.Proofs.Session.Freezing

/-!
# What is not there stays away

Once a path has gone through a name that is not there, the name has a node of nothing,
and from then on the node looks no different from one of a member that is null.  That
does no harm: along every run of a session, with any changes of the host, a node for a
name that the value above it does not declare is one of nothing
(`Moment.KeepsAbsence.after`), and names that are not declared do not become so later.

So a path through such a name leads nowhere at every moment, except that a path ending in
the word for the value itself shows the nothing that stands there
(`Session.resolve_absent`).
-/

set_option autoImplicit false

namespace Stencil

/-! ## The invariant -/

/-- The scope of a moment is sound, and a node for a name that is not declared is one of nothing. -/
structure Moment.KeepsAbsence (moment : Moment) : Prop where
  sound : moment.IsSound
  keeps : Scope.KeepsAbsence moment.host moment.scope

namespace Moment

theorem keepsAbsence_start (host : Host) (root : Value) : (start host root).KeepsAbsence :=
  ⟨isSound_start host root, .new root⟩

/-- A node is either kept from before, and then so is the node above it, or it is made for the
member found when a path goes through its name. -/
theorem KeepsAbsence.after (moment : Moment) (step : Step) (before : moment.KeepsAbsence) :
    (moment.after step).KeepsAbsence := by
  refine ⟨before.sound.after step, ?_⟩
  intro address name above kept foundAbove found undeclared
  rw [Value.declares_iff_of_typeOf (moment.typeOf_after step)] at undeclared
  have grows := moment.extends_after step
  cases earlier : moment.scope.node? (address ++ [name]) with
  | some node =>
    obtain ⟨parent, parentFound, -⟩ :=
      Option.bind_eq_some_iff.mp ((moment.scope.node?_append address [name]).symm.trans earlier)
    obtain ⟨later, laterFound, same⟩ := grows _ node earlier
    obtain ⟨laterParent, laterParentFound, sameParent⟩ := grows _ parent parentFound
    obtain rfl := Option.some.inj (found.symm.trans laterFound)
    obtain rfl := Option.some.inj (foundAbove.symm.trans laterParentFound)
    rw [sameParent] at undeclared
    rw [same]
    exact before.keeps address name parent node parentFound earlier undeclared
  | none =>
    rcases node?_of_after found with ⟨node, isThere⟩ | goes
    · rw [earlier] at isThere
      cases isThere
    · obtain ⟨parent, node, parentFound, nodeFound, value⟩ := goes.exists_node before.sound
      obtain rfl := Option.some.inj (foundAbove.symm.trans parentFound)
      obtain rfl := Option.some.inj (found.symm.trans nodeFound)
      rw [value earlier, Value.member?_of_not_declares undeclared]
      rfl

end Moment

namespace Session

theorem keepsAbsence_live (host : Host) (root : Value) (happenings : List Happening) :
    let last := (new host root).live host happenings
    Moment.KeepsAbsence ⟨last.1, last.2.scope⟩ :=
  live_of_after Moment.KeepsAbsence Moment.KeepsAbsence.after
    (Moment.keepsAbsence_start host root) happenings

/-- **Absent names.**  Whatever a session was used for and whatever became of its host in the
meantime: if the first name of a path is not the word for the value itself, not bound and not
declared by the root value, the path leads nowhere, whatever stands behind that name, but for one
case.  If the last name behind it is the word for the value itself, the path leads to the null
value.  The same is true of a name behind others that the value behind these does not declare. -/
theorem resolve_absent (host : Host) (root : Value) (happenings : List Happening) :
    let last := (new host root).live host happenings
    let scope := last.2.scope
    (∀ before rest, '.' ∉ before →
      let head := Text.trimStart before
      ¬ Path.isThis head → scope.local? (.ofList head) = none →
        ¬ root.Declares last.1 (.ofList head) →
          (scope.resolve last.1 (.ofList (before ++ '.' :: rest))).value.1 =
            if (Path.ofText (Text.trimEnd rest)).endsInThis then some .null else none) ∧
      ∀ text names path head, Path.ofText (Text.trim text.toList) = .through names path →
        path.head? = some head → (names = [] → scope.local? head = none) →
          ¬ (scope.behind last.1 names).value.Declares last.1 head →
            (scope.resolve last.1 text).value.1 =
              if path.endsInThis then some .null else none := by
  intro last scope
  obtain ⟨sound, keeps⟩ := keepsAbsence_live host root happenings
  have value : scope.value = root := value_live host (new host root) happenings
  constructor
  · intro before rest free head other unbound undeclared
    have point : Text.isBlank '.' = false := by decide
    have headFree : '.' ∉ head := fun member => free ((List.dropWhile_sublist _).subset member)
    have trimmed : Path.ofText (Text.trim (before ++ '.' :: rest)) =
        .step (.ofList head) (Path.ofText (Text.trimEnd rest)) := by
      rw [Text.trim_append_cons point, Path.ofText_append_point headFree, if_neg other]
    rw [← value] at undeclared
    rw [Scope.value_resolve, String.toList_ofList, trimmed]
    exact Scope.value_follow_absent keeps sound rfl unbound undeclared
  · intro text names path head through starts unbound undeclared
    obtain ⟨soundBehind, keepsBehind, unboundBehind⟩ := Scope.behind_spec names sound keeps
    have free : (scope.behind last.1 names).local? head = none := by
      by_cases first : names = []
      · subst first
        exact unbound rfl
      · rw [Scope.local?, unboundBehind (.inl first)]
        rfl
    rw [Scope.value_resolve, through, Scope.value_follow_behind]
    exact Scope.value_follow_absent keepsBehind soundBehind starts free undeclared

/-- After a path through a name that is not there, further paths through it and through one in the
user lead nowhere, and the word for the value itself shows nothing behind them. -/
theorem resolve_absent_user :
    let host : Host := ⟨[], []⟩
    let root : Value := .map [("user", .map [("name", .string "Bob")])]
    let scope := ((new host root).live host [.call (.resolve "nope.name")]).2.scope
    (scope.resolve host " nope.deeper.still").value.1 = none ∧
      (scope.resolve host "user.nope.deeper.This ").value.1 = some .null := by
  intro host root scope
  obtain ⟨first, later⟩ := resolve_absent host root [.call (.resolve "nope.name")]
  have undeclared : ¬ root.Declares host "nope" := by simp [root, Value.Declares, Entries.get?]
  have user : (scope.behind host ["user"]).value = .map [("name", .string "Bob")] := rfl
  have undeclaredBehind : ¬ (scope.behind host ["user"]).value.Declares host "nope" := by
    simp [user, Value.Declares, Entries.get?]
  constructor
  · exact first " nope".toList "deeper.still".toList (by decide) (by decide) (by decide +kernel)
      undeclared
  · exact later "user.nope.deeper.This " ["user"] (.step "nope" (.step "deeper" .this)) "nope"
      (by decide) rfl (fun none => by cases none) undeclaredBehind

/-- A name that is not there leads nowhere, but with the word for the value itself behind it to the
null value. -/
theorem resolve_absent_this :
    let host : Host := ⟨[], []⟩
    let root : Value := .map []
    let scope := ((new host root).live host []).2.scope
    ¬ Path.isThis "missing".toList ∧ scope.local? "missing" = none ∧
      ¬ root.Declares host "missing" ∧ (scope.resolve host "missing").value.1 = none ∧
      (scope.resolve host "missing.this").value.1 = some .null := by
  intro host root scope
  refine ⟨by decide, rfl, ?_, by decide +kernel, by decide +kernel⟩
  intro declared
  cases declared

end Session

end Stencil
