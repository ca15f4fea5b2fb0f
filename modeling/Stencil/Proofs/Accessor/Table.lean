import Stencil.Proofs.Accessor.Isolation
import Stencil.Proofs.Data.Entries

/-!
# Members by tables

What a type declares can be looked up in tables: one for the members of each sort, in which
the last member of a name stands, and one for the methods, in which the overloads of a name
stand in the order of declaration.  An accessor can then ask the tables of its own type and,
if these have nothing that the search permits, ask its parent in the same way
(`Accessor.ask`).

Asking tables from parent to parent comes to the same as searching the declarations of the
chain, for readings, for writings and for calls (`Accessor.get_eq_ask`,
`Accessor.set_eq_ask`, `Accessor.invoke_eq_ask`).
-/

set_option autoImplicit false

namespace Stencil

/-! ## Tables of a type -/

theorem Entries.get?_map_pair {α : Type} (named : α → String) (items : List α) (key : String) :
    Entries.get? (items.map fun item => (named item, item)) key =
      items.find? fun item => named item = key := by
  induction items with
  | nil => rfl
  | cons item rest ih =>
    rw [List.map_cons, Entries.get?, List.find?_cons, ih]
    by_cases same : named item = key <;> simp [same]

namespace Declaration

variable (declaration : Declaration) (search : Search) (name : String)

/-- The members of a sort by name. -/
def memberTable (sort : MemberSort) : Entries Member :=
  .ofPairs ((declaration.members sort).map fun member => (member.name, member))

/-- The table of overloads with one more method. -/
def addOverload (table : Entries (List Method)) (method : Method) : Entries (List Method) :=
  table.insert method.name ((table.get? method.name).getD [] ++ [method])

/-- The overloads by name. -/
def methodTable : Entries (List Method) :=
  declaration.methods.foldl addOverload []

/-- The member in the table, if a search permits it. -/
def tabled? (sort : MemberSort) : Option Member :=
  ((declaration.memberTable sort).get? name).filter fun member => search.permits member.isStatic

/-- The first of the overloads in the table that a search permits and that takes arguments of
certain kinds. -/
def tabledOverload? (kinds : List Kind) : Option Method :=
  ((declaration.methodTable.get? name).getD []).find? fun method =>
    search.permits method.isStatic && method.parameters = kinds

theorem tabled?_eq (sort : MemberSort) :
    declaration.tabled? search name sort = declaration.member? sort search name := by
  rw [tabled?, memberTable, Entries.get?_ofPairs, ← List.map_reverse, Entries.get?_map_pair,
    member?]
  cases (declaration.members sort).reverse.find? fun member => member.name = name <;> rfl

/-- Under each name stand the overloads that were there and then those added, in order. -/
theorem getD_get?_foldl_addOverload (methods : List Method) (table : Entries (List Method)) :
    (Entries.get? (methods.foldl addOverload table) name).getD [] =
      (table.get? name).getD [] ++ methods.filter fun method => method.name = name := by
  induction methods generalizing table with
  | nil => simp
  | cons method rest ih =>
    rw [List.foldl_cons, ih, addOverload, Entries.get?_insert]
    by_cases same : method.name = name
    · subst same
      simp
    · simp [same]

theorem tabledOverload?_eq (kinds : List Kind) :
    declaration.tabledOverload? search name kinds = declaration.method? search name kinds := by
  rw [tabledOverload?, methodTable, getD_get?_foldl_addOverload, method?]
  simp [Entries.get?, List.find?_filter, Bool.and_assoc]

end Declaration

namespace Accessor

/-! ## Asking from parent to parent -/

theorem length_ancestors_of_parent? {accessor above : Accessor}
    (parent : accessor.parent? = some above) :
    above.ancestors.length < accessor.ancestors.length := by
  unfold parent? at parent
  split at parent
  · cases parent
  · next ancestors =>
    obtain rfl := Option.some.inj parent
    simp [ancestors]

section Ask

variable {α β : Type} (inherited : Bool) (find? : Declaration → Option α)
  (use : Handle → Located α → β) (missing : β)

/-- Uses what the bound type has an answer for, or else asks the parent, if the search goes on and
there is one. -/
def ask (accessor : Accessor) : β :=
  match find? accessor.bound.declaration with
  | some found => use accessor.object ⟨accessor.steps, accessor.bound.declaration, found⟩
  | none =>
    if inherited then
      match parent : accessor.parent? with
      | some above =>
        have := length_ancestors_of_parent? parent
        ask above
      | none => missing
    else missing
termination_by accessor.ancestors.length

/-- Asking from parent to parent uses the first find up the chain. -/
theorem ask_eq (accessor : Accessor) :
    ask inherited find? use missing accessor =
      match locate inherited find? accessor.steps accessor.declarations with
      | some located => use accessor.object located
      | none => missing := by
  obtain ⟨object, steps, bound, ancestors⟩ := accessor
  induction ancestors generalizing steps bound with
  | nil =>
    rw [ask]
    simp only [declarations, links, List.map_cons, List.map_nil, locate]
    cases find? bound.declaration <;> cases inherited <;> rfl
  | cons next rest ih =>
    rw [ask]
    have above := ih (steps + 1) next
    simp only [declarations, links, List.map_cons, locate] at above ⊢
    cases find? bound.declaration with
    | some found => rfl
    | none =>
      cases inherited with
      | false => rfl
      | true => simpa [parent?] using above

end Ask

variable (host : Host) (accessor : Accessor) (search : Search) (name : String)

theorem get_eq_ask (sort : MemberSort) :
    (accessor.get host sort search name).value.1 =
      accessor.ask search.inherited (·.tabled? search name sort) (read host) none := by
  simp only [Declaration.tabled?_eq]
  rw [ask_eq, value_get, valueOf?, member?]
  cases locate search.inherited _ accessor.steps accessor.declarations <;> rfl

theorem set_eq_ask (sort : MemberSort) (value : Value) :
    ((accessor.set host sort search name value).value.1,
        (accessor.set host sort search name value).value.2.1) =
      accessor.ask search.inherited (·.tabled? search name sort)
        (fun object located => write host object located value) (false, host) := by
  simp only [Declaration.tabled?_eq]
  rw [ask_eq, value_set, member?]
  cases locate search.inherited _ accessor.steps accessor.declarations <;> rfl

theorem invoke_eq_ask (arguments : List Value) :
    ((accessor.invoke host search name arguments).value.1,
        (accessor.invoke host search name arguments).value.2.1) =
      accessor.ask search.inherited
        (·.tabledOverload? search name (arguments.map host.kind))
        (fun object located => call host object located arguments) (none, host) := by
  simp only [Declaration.tabledOverload?_eq]
  rw [ask_eq, value_invoke]
  simp only [method?]
  cases locate search.inherited _ accessor.steps accessor.declarations <;> rfl

end Accessor

end Stencil
