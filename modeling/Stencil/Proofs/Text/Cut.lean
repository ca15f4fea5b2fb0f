import Mathlib.Data.List.Infix
import Stencil.Text.Cut

/-!
# Where the first occurrence of a mark is

A cut fails exactly when the mark occurs nowhere in the text
(`cutAt_eq_none_iff`).

Text that a mark does not occur in can be put in front of any other text without
changing where the second text is cut, provided the mark does not straddle the
seam between the two (`cutAt_append_of_not_occursIn`).  Most seams of a template
are of that kind because the text before them ends, or the text after them
starts, with a character that the mark does not have there.
-/

set_option autoImplicit false

namespace Stencil.Text

namespace Mark

/-- Whether a mark stands somewhere in a text. -/
def OccursIn (mark : Mark) (text : List Char) : Prop :=
  mark.text <:+: text

instance (mark : Mark) (text : List Char) : Decidable (mark.OccursIn text) :=
  inferInstanceAs (Decidable (mark.text <:+: text))

/-- Whether a mark stands across the place where two texts meet. -/
def Straddles (mark : Mark) (left right : List Char) : Prop :=
  left.getLast? = some mark.first ∧ right.head? = some mark.second

/-- A mark that stands across the end of a suffix stands across the end of the whole text. -/
theorem Straddles.of_suffix {mark : Mark} {ending text right : List Char}
    (straddles : mark.Straddles ending right) (suffix : ending <:+ text) :
    mark.Straddles text right := by
  obtain ⟨skipped, rfl⟩ := suffix
  refine ⟨?_, straddles.2⟩
  rw [List.getLast?_append, straddles.1, Option.some_or]

theorem not_occursIn_nil (mark : Mark) : ¬ mark.OccursIn [] := by
  simp [OccursIn, text]

theorem not_occursIn_singleton (mark : Mark) (character : Char) : ¬ mark.OccursIn [character] := by
  intro occurs
  simpa [text] using occurs.length_le

theorem occursIn_cons_cons {mark : Mark} {first second : Char} {rest : List Char} :
    mark.OccursIn (first :: second :: rest) ↔
      (first = mark.first ∧ second = mark.second) ∨ mark.OccursIn (second :: rest) := by
  simp only [OccursIn, text, List.infix_cons_iff, List.cons_prefix_cons, List.nil_prefix, and_true]
  rw [eq_comm, @eq_comm _ mark.second]

end Mark

/-- A text cannot be cut exactly if the mark does not occur in it. -/
theorem cutAt_eq_none_iff {mark : Mark} {text : List Char} :
    cutAt mark text = none ↔ ¬ mark.OccursIn text := by
  induction text with
  | nil => simp [cutAt, mark.not_occursIn_nil]
  | cons first tail ih =>
    cases tail with
    | nil => simp [cutAt, mark.not_occursIn_singleton]
    | cons second rest =>
      rw [Mark.occursIn_cons_cons]
      by_cases here : first = mark.first ∧ second = mark.second
      · simp [cutAt, here]
      · simp [cutAt, here, ih]

/-- Text without the mark in front of a text only lengthens what stands before the cut. -/
theorem cutAt_append_of_not_occursIn {mark : Mark} {left right : List Char}
    (free : ¬ mark.OccursIn left) (seam : ¬ mark.Straddles left right) :
    cutAt mark (left ++ right) =
      (cutAt mark right).map fun (before, after) => (left ++ before, after) := by
  induction left with
  | nil => simp
  | cons first tail ih =>
    cases tail with
    | nil =>
      cases right with
      | nil => simp [cutAt]
      | cons second rest =>
        have here : ¬ (first = mark.first ∧ second = mark.second) := by
          simpa [Mark.Straddles] using seam
        simp [cutAt, if_neg here]
    | cons second rest =>
      rw [Mark.occursIn_cons_cons, not_or] at free
      have inner := ih free.2 (by simpa [Mark.Straddles] using seam)
      simp only [List.cons_append] at inner ⊢
      simp [cutAt, if_neg free.1, inner, Function.comp_def]

/-- Text behind a text that is cut only lengthens what stands after the cut. -/
theorem cutAt_append_right {mark : Mark} {text before after : List Char}
    (cut : cutAt mark text = some (before, after)) (more : List Char) :
    cutAt mark (text ++ more) = some (before, after ++ more) := by
  induction text generalizing before with
  | nil => simp [cutAt] at cut
  | cons first tail ih =>
    cases tail with
    | nil => simp [cutAt] at cut
    | cons second rest =>
      by_cases here : first = mark.first ∧ second = mark.second
      · simp only [cutAt, if_pos here, Option.some.injEq, Prod.mk.injEq] at cut
        obtain ⟨rfl, rfl⟩ := cut
        simp [cutAt, here]
      · simp only [cutAt, if_neg here, Option.map_eq_some_iff, Prod.mk.injEq] at cut
        obtain ⟨⟨inner, remainder⟩, found, rfl, rfl⟩ := cut
        have later := ih found
        simp only [List.cons_append] at later ⊢
        simp [cutAt, if_neg here, later]

/-- The mark does not occur before the cut. -/
theorem cutAt_before {mark : Mark} {text before after : List Char}
    (cut : cutAt mark text = some (before, after)) : cutAt mark before = none := by
  cases inside : cutAt mark before with
  | none => rfl
  | some sides =>
    have shorter := length_of_cutAt inside
    have earlier := cutAt_append_right inside (mark.text ++ after)
    rw [← List.append_assoc, ← cutAt_append cut, cut, Option.some.injEq, Prod.mk.injEq] at earlier
    rw [earlier.1] at shorter
    omega

/-- A mark that occurs in neither of two texts, nor across their seam, does not occur in both
together. -/
theorem not_occursIn_append {mark : Mark} {left right : List Char}
    (freeLeft : ¬ mark.OccursIn left) (freeRight : ¬ mark.OccursIn right)
    (seam : ¬ mark.Straddles left right) : ¬ mark.OccursIn (left ++ right) := by
  rw [← cutAt_eq_none_iff] at freeRight ⊢
  rw [cutAt_append_of_not_occursIn freeLeft seam, freeRight, Option.map_none]

/-- The cut of a text at a mark that stands right after some text without it. -/
theorem cutAt_mark {mark : Mark} {before : List Char} (after : List Char)
    (free : ¬ mark.OccursIn before) (seam : ¬ mark.Straddles before mark.text) :
    cutAt mark (before ++ mark.text ++ after) = some (before, after) := by
  have straight : ¬ mark.Straddles before (mark.text ++ after) := by
    simpa [Mark.Straddles, Mark.text] using seam
  rw [List.append_assoc, cutAt_append_of_not_occursIn free straight]
  simp [cutAt, Mark.text]

end Stencil.Text
