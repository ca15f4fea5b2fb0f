/-!
# Cutting a text at the last occurrence of a word

What stands before the last occurrence of a word and what stands after it.  A cut
loses nothing but the word (`cutAtLast_append`).
-/

set_option autoImplicit false

namespace Stencil.Text

/-- The text before and the text after the last occurrence of a word. -/
def cutAtLast (word : List Char) : List Char → Option (List Char × List Char)
  | [] => none
  | character :: rest =>
    match cutAtLast word rest with
    | some (before, after) => some (character :: before, after)
    | none =>
      if word.isPrefixOf (character :: rest) then
        some ([], (character :: rest).drop word.length)
      else none

/-- A text is what stands before the word, the word, and what stands after it. -/
theorem cutAtLast_append {word text before after : List Char}
    (cut : cutAtLast word text = some (before, after)) : text = before ++ word ++ after := by
  induction text generalizing before with
  | nil => simp [cutAtLast] at cut
  | cons character rest ih =>
    simp only [cutAtLast] at cut
    split at cut
    · next inner remainder found =>
      simp only [Option.some.injEq, Prod.mk.injEq] at cut
      obtain ⟨rfl, rfl⟩ := cut
      simp [ih found]
    · split at cut
      · next leads =>
        simp only [Option.some.injEq, Prod.mk.injEq] at cut
        obtain ⟨rfl, rfl⟩ := cut
        obtain ⟨tail, same⟩ := List.isPrefixOf_iff_prefix.mp leads
        simp [← same]
      · simp at cut

end Stencil.Text
