import Stencil.Proofs.Template.Parse
import Stencil.Proofs.Text.Offset

/-!
# The next opening mark by offsets

Plain text ends where a variable or a tag opens.  Both marks start with a brace, so
the braces of a range are looked at one after the other, each with the rest of the
range behind it.

The search is compared with `cutOpening`, which takes a text apart at its first
opening mark.  What stands before that is plain in the tree of the text as well
(`opensAfter_of_cutOpening`).
-/

set_option autoImplicit false

namespace Stencil.Template

open Text (Between slice?)
open String (utf8Len utf8Len_nil utf8Len_cons)

/-! ## The search -/

/-- Whether a text starts with a mark that opens a variable or a tag. -/
def opens (text : List Char) : Bool :=
  openVariable.text.isPrefixOf text || openTag.text.isPrefixOf text

/-- The offsets of the braces of a piece that starts at an offset. -/
def bracesFrom (offset : Nat) : List Char → List Nat
  | [] => []
  | character :: rest =>
    if character = '\x7b' then offset :: bracesFrom (offset + character.utf8Size) rest
    else bracesFrom (offset + character.utf8Size) rest

/-- Whether a variable or a tag opens at an offset, with its mark before another offset. -/
def opensAt (text : List Char) (stop offset : Nat) : Option Bool := do
  let rest ← slice? text offset stop
  return opens rest

/-- The offset of the first opening mark between two offsets of a text. -/
def findOpening (text : List Char) (start stop : Nat) : Option (Option Nat) := do
  let piece ← slice? text start stop
  (bracesFrom start piece).findM? (opensAt text stop)

/-! ## The opening mark in a text -/

/-- The text before the first opening mark, and the text from there on. -/
def cutOpening : List Char → Option (List Char × List Char)
  | [] => none
  | character :: rest =>
    if opens (character :: rest) then some ([], character :: rest)
    else (cutOpening rest).map fun (before, opened) => (character :: before, opened)

/-- Both opening marks start with a brace. -/
theorem not_opens_of_ne {character : Char} (noBrace : character ≠ '\x7b') (rest : List Char) :
    opens (character :: rest) = false := by
  simp [opens, openVariable, openTag, Text.Mark.text, List.isPrefixOf, noBrace.symm]

/-- A character that nothing opens at is plain. -/
theorem parse_of_not_opens {character : Char} {rest : List Char}
    (plain : ¬ opens (character :: rest) = true) :
    parse (character :: rest) = .text character :: parse rest := by
  simp only [opens, Bool.or_eq_true, List.isPrefixOf_iff_prefix, not_or] at plain
  exact parse_character plain.1 plain.2

/-- Without an opening mark all of a text is plain. -/
theorem parse_of_no_opening {text : List Char} (cut : cutOpening text = none) :
    parse text = text.map .text := by
  induction text with
  | nil => exact parse_nil
  | cons character rest ih =>
    simp only [cutOpening] at cut
    split at cut
    · cases cut
    · next plain =>
      rw [parse_of_not_opens plain, ih (Option.map_eq_none_iff.mp cut), List.map_cons]

/-- A text with some plain text before an opening mark. -/
structure OpensAfter (text before opened : List Char) : Prop where
  whole : text = before ++ opened
  opens : opens opened = true
  /-- What stands before the mark is plain. -/
  tree : parse text = before.map .text ++ parse opened

theorem opensAfter_of_cutOpening {text before opened : List Char}
    (cut : cutOpening text = some (before, opened)) : OpensAfter text before opened := by
  induction text generalizing before with
  | nil => cases cut
  | cons character rest ih =>
    simp only [cutOpening] at cut
    split at cut
    · next here =>
      obtain ⟨rfl, rfl⟩ := Prod.mk.inj (Option.some.inj cut)
      exact ⟨rfl, here, rfl⟩
    · next plain =>
      obtain ⟨⟨inner, remainder⟩, found, same⟩ := Option.map_eq_some_iff.mp cut
      obtain ⟨rfl, rfl⟩ := Prod.mk.inj same
      obtain ⟨whole, opens, tree⟩ := ih found
      refine ⟨by rw [whole, List.cons_append], opens, ?_⟩
      rw [parse_of_not_opens plain, tree, List.map_cons, List.cons_append]

/-! ## Agreement -/

variable {text piece : List Char} {start stop : Nat}

/-- The braces of a piece are looked at from the first to the last. -/
theorem findM?_opensAt (here : Between text start stop piece) :
    (bracesFrom start piece).findM? (opensAt text stop) =
      some ((cutOpening piece).map fun cut => start + utf8Len cut.1) := by
  induction piece generalizing start with
  | nil => rfl
  | cons character rest ih =>
    have behind : Between text (start + character.utf8Size) stop rest := by
      have apart : Between text start stop ([character] ++ rest) := here
      have right := apart.right
      rwa [utf8Len_cons, utf8Len_nil, Nat.zero_add] at right
    have later := ih behind
    have shift (plain : opens (character :: rest) = false) :
        (cutOpening (character :: rest)).map (fun cut => start + utf8Len cut.1) =
          (cutOpening rest).map fun cut => start + character.utf8Size + utf8Len cut.1 := by
      rw [cutOpening, if_neg (ne_true_of_eq_false plain), Option.map_map]
      congr 1
      funext cut
      simp only [Function.comp_apply, utf8Len_cons]
      omega
    by_cases brace : character = '\x7b'
    · have looked : opensAt text stop start = some (opens (character :: rest)) := by
        rw [opensAt, here.slice?]
        rfl
      rw [bracesFrom, if_pos brace, List.findM?, looked]
      cases found : opens (character :: rest) with
      | true =>
        rw [cutOpening, if_pos found]
        rfl
      | false =>
        rw [shift found]
        exact later
    · rw [bracesFrom, if_neg brace, shift (not_opens_of_ne brace rest), later]

/-- **The search for an opening mark.**  In a range of a text the first opening mark is found at
its place. -/
theorem findOpening_of_between (here : Between text start stop piece) :
    findOpening text start stop =
      some ((cutOpening piece).map fun cut => start + utf8Len cut.1) := by
  rw [findOpening, here.slice?]
  exact findM?_opensAt here

end Stencil.Template
