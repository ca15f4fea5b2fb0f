import Stencil.Proofs.Context.History
import Stencil.Proofs.Render.Loop

/-!
# What a context shows of its history

A loop over the value of the scope visits the entries of a context, each as a map of its
own with a `key` and a `value`.  The loop that writes them down (`Template.listingText`)
binds that map to a name and follows two paths through it.  Such paths start at a
binding, so they keep nothing: the scope is the same for every entry and afterwards.

The lines come out in the order of the entries, and the entries are what is left of the
history of the context.  So the loop lists every name that remains once, at the place
where it entered, with the text of the value inserted last (`Session.render_listing`).
-/

set_option autoImplicit false

namespace Stencil

/-- The line of an entry: its name, an equals sign, the text of its value and a semicolon. -/
def Host.entryText (host : Host) (entry : String × Value) : String :=
  entry.1 ++ "=" ++ host.display entry.2 ++ ";"

/-! ## The loop -/

namespace Template

/-- The loop that lists a context. -/
def listingText : String :=
  "\x7b% foreach kv in this %\x7d\x7b\x7b kv.key \x7d\x7d=\x7b\x7b kv.value \x7d\x7d;\x7b% endfor %\x7d"

/-- The tag of the loop. -/
def listingTag : LoopTag where
  name := "kv".toList
  source := "this".toList
  isName := by decide
  isPath := .name (by decide)
  noEndInName := by decide
  noEndInSource := by decide

/-- The body of the loop. -/
def listingBody : List Piece :=
  [.variable ⟨"kv.key".toList, by decide, by decide⟩,
    .plain ⟨"=".toList, by decide, by decide, by decide⟩,
    .variable ⟨"kv.value".toList, by decide, by decide⟩,
    .plain ⟨";".toList, by decide, by decide, by decide⟩]

theorem ofList_printAll_listing :
    String.ofList (Piece.printAll [.loop listingTag listingBody]) = listingText := by
  decide

end Template

open Template (Piece listingText listingTag listingBody)

/-! ## Rendering it -/

section Evaluation

variable (host : Host)

/-- A path of two names through a map that is bound to the first leads to the entry of the second,
and nothing is kept. -/
theorem Scope.value_display_bound_entry {scope : Scope} {text name member : String}
    {entries : Entries Value} (bound : scope.local? name = some (.map entries))
    (path : Path.ofText (Text.trim text.toList) = .step name (.name member)) :
    (scope.display host text).value =
      (((Entries.get? entries member).map host.display).getD "", scope) := by
  rw [value_display, value_resolve, path, follow, bound]
  rfl

namespace Template

variable (strict : Bool)

/-- The body shows the line of the entry that is bound. -/
theorem evaluateAll_listingBody (scope : Scope) (entry : String × Value) :
    let within := scope.push "kv" (.ofEntry entry.1 entry.2)
    Piece.evaluateAll host strict listingBody within =
      (.ok (host.entryText entry).toList, within) := by
  intro within
  have bound : within.local? "kv" = some (.ofEntry entry.1 entry.2) := rfl
  have shownKey : (within.display host "kv.key").value = (entry.1, within) :=
    Scope.value_display_bound_entry host bound (by decide : Path.ofText _ = .step "kv" (.name "key"))
  have shownValue : (within.display host "kv.value").value = (host.display entry.2, within) :=
    Scope.value_display_bound_entry host bound
      (by decide : Path.ofText _ = .step "kv" (.name "value"))
  simp only [listingBody, Piece.evaluateAll, Piece.evaluate, Evaluation.followedBy,
    String.ofList_toList, shownKey, shownValue, Host.entryText, String.toList_append,
    List.append_assoc, List.append_nil]

/-- The loop shows the lines of the entries of the value of the scope, which stays as it is. -/
theorem evaluateAll_listing {scope : Scope} {entries : Entries Value}
    (value : scope.value = .map entries) :
    Piece.evaluateAll host strict [.loop listingTag listingBody] scope =
      (.ok (entries.flatMap fun entry => (host.entryText entry).toList), scope) := by
  have resolved : (scope.resolve host (.ofList listingTag.source)).value =
      (some (.map entries), scope) := by
    rw [Scope.value_resolve, ← value]
    rfl
  have visited : host.elements? (.map entries) =
      some (entries.map fun entry => .ofEntry entry.1 entry.2) := rfl
  have name : String.ofList listingTag.name = "kv" := rfl
  simp only [Piece.evaluateAll, Piece.evaluate, resolved, Option.bind_some, visited,
    Option.getD_some, name, evaluateEach_of_ok (evaluateAll_listingBody host strict scope),
    Evaluation.followedBy, List.append_nil]

end Template

end Evaluation

namespace Session

open Context (Call Lists after)

theorem value_render_listing (host : Host) {session : Session} {entries : Entries Value}
    (rooted : session.scope.value = .map entries) :
    (session.render host listingText).value =
      (.ok (String.join (entries.map host.entryText)), session) := by
  rw [← Template.ofList_printAll_listing,
    value_render_of_evaluateAll (Template.evaluateAll_listing host session.strict rooted),
    ofList_flatMap_toList]

/-- **A context is listed completely, each name once, in order.**  Take a context after any calls, and
any session of it.  Listing its entries gives the lines of what is left of the calls, and of nothing
else.  What is found under a name, whether there is something and what a removal gives agree with the
listing, and data that cannot be serialized is refused and leaves the context as it was. -/
theorem render_listing (host : Host) (session : Session) (history : List Call)
    (rooted : session.scope.value = (after history).toValue) :
    let context := after history
    let listing := context.entries
    (session.render host listingText).value.1 = .ok (String.join (listing.map host.entryText)) ∧
      Lists history listing ∧ (∀ other, Lists history other → other = listing) ∧
      (∀ key, (∀ value, context.get? key = some value ↔ (key, value) ∈ listing) ∧
        (context.contains key = true ↔ key ∈ listing.keys) ∧
        (context.remove key).1 = context.get? key) ∧
      ∀ key data cause, Value.ofSerial data = .error cause →
        context.tryInsert key data = .error (.serial cause) ∧
          after (history ++ [.tryInsert key data]) = context := by
  intro context listing
  have lists : Lists history listing := Context.lists_after history
  have rendered := congrArg Prod.fst (value_render_listing host rooted)
  refine ⟨rendered, lists, fun other also => also.unique lists, fun key => ?_,
    fun key data cause failed => ?_⟩
  · exact ⟨fun value => Entries.get?_eq_some_iff lists.once, Entries.isSome_get?_iff, rfl⟩
  · have refused := context.tryInsert_of_error key failed
    refine ⟨refused, ?_⟩
    rw [Context.after_concat, Context.perform, refused]

/-- A session in which conditions are strict and the name of the loop is bound already.  Its context
has seen a name come back behind the others, a value replaced where it stood, and data that refuses
to be written under a name that remains. -/
theorem render_listing_reinserted :
    let history : List Call :=
      [.insert "b" (.int 1), .insert "a" (.list [.null]), .insertObject "o" ⟨0⟩, .remove "b",
        .tryInsert "a" (.refusing "no"), .tryInsert "c" (.present (.string "x")),
        .insert "b" (.bool true), .insert "a" (.int 2)]
    let session : Session := ⟨(Scope.new .empty (after history).toValue).push "kv" (.int 5), true⟩
    session.scope.value = (after history).toValue ∧
      (session.render .empty listingText).value.1 = .ok "a=2;o=object;c=x;b=true;" := by
  intro history session
  exact ⟨rfl, (render_listing .empty session history rfl).1.trans (by decide +kernel)⟩

end Session

end Stencil
