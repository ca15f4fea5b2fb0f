/-!
# Cutting a text at a two-character mark

Every delimiter of a template is a pair of characters, a *mark*.  Cutting a text
at a mark gives what stands before its first occurrence and what stands after
it.  A cut loses nothing but the mark (`cutAt_append`) and leaves less than it
was given (`length_of_cutAt`), which is what makes readers built on it end.
-/

set_option autoImplicit false

namespace Stencil.Text

/-- A delimiter made of two characters. -/
structure Mark where
  first : Char
  second : Char
  deriving DecidableEq, Repr

/-- The two characters of a mark as text. -/
def Mark.text (mark : Mark) : List Char :=
  [mark.first, mark.second]

/-- The text before and the text after the first occurrence of a mark. -/
def cutAt (mark : Mark) : List Char → Option (List Char × List Char)
  | first :: second :: rest =>
    if first = mark.first ∧ second = mark.second then
      some ([], rest)
    else
      (cutAt mark (second :: rest)).map fun (before, after) => (first :: before, after)
  | _ => none

/-- A text is what stands before the mark, the mark, and what stands after it. -/
theorem cutAt_append {mark : Mark} {text before after : List Char}
    (cut : cutAt mark text = some (before, after)) : text = before ++ mark.text ++ after := by
  induction text generalizing before with
  | nil => simp [cutAt] at cut
  | cons first tail ih =>
    cases tail with
    | nil => simp [cutAt] at cut
    | cons second rest =>
      by_cases here : first = mark.first ∧ second = mark.second
      · simp only [cutAt, if_pos here, Option.some.injEq, Prod.mk.injEq] at cut
        obtain ⟨rfl, rfl⟩ := cut
        simp [Mark.text, here.1, here.2]
      · simp only [cutAt, if_neg here, Option.map_eq_some_iff, Prod.mk.injEq] at cut
        obtain ⟨⟨inner, remainder⟩, found, rfl, rfl⟩ := cut
        simp [ih found]

/-- The two sides of a cut are two characters shorter than the text. -/
theorem length_of_cutAt {mark : Mark} {text before after : List Char}
    (cut : cutAt mark text = some (before, after)) :
    before.length + after.length + 2 = text.length := by
  rw [cutAt_append cut]
  simp only [Mark.text, List.length_append, List.length_cons, List.length_nil]
  omega

end Stencil.Text
