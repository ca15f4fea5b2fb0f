/-!
# Splitting a text at a character

The pieces of a text between the occurrences of a separator.  There is always a
first piece, so they are given as that one and the others.
-/

set_option autoImplicit false

namespace Stencil.Text

/-- The first piece of a text, and the other pieces. -/
def split (separator : Char) : List Char → List Char × List (List Char)
  | [] => ([], [])
  | character :: rest =>
    let (first, others) := split separator rest
    if character = separator then ([], first :: others) else (character :: first, others)

/-- Joining the pieces with the separator gives the text back. -/
theorem join_split (separator : Char) (text : List Char) :
    (split separator text).1 ++ (split separator text).2.flatMap (separator :: ·) = text := by
  induction text with
  | nil => rfl
  | cons character rest ih =>
    simp only [split]
    by_cases same : character = separator
    · simp [same, ih]
    · simp [same, ih]

/-- No piece contains the separator. -/
theorem not_mem_split (separator : Char) (text : List Char) :
    separator ∉ (split separator text).1 ∧ ∀ piece ∈ (split separator text).2, separator ∉ piece := by
  induction text with
  | nil => simp [split]
  | cons character rest ih =>
    simp only [split]
    by_cases same : character = separator
    · simp only [if_pos same, List.not_mem_nil, not_false_eq_true, List.mem_cons, true_and]
      rintro piece (rfl | later)
      · exact ih.1
      · exact ih.2 piece later
    · simp only [if_neg same, List.mem_cons, not_or]
      exact ⟨⟨Ne.symm same, ih.1⟩, ih.2⟩

/-- A text without the separator is its only piece. -/
theorem split_of_not_mem {separator : Char} {text : List Char} (free : separator ∉ text) :
    split separator text = (text, []) := by
  induction text with
  | nil => rfl
  | cons character rest ih =>
    rw [List.mem_cons, not_or] at free
    simp only [split, if_neg (Ne.symm free.1), ih free.2]

/-- The first piece ends at the first separator, and behind it the other pieces start. -/
theorem split_append {separator : Char} {first : List Char} (free : separator ∉ first)
    (rest : List Char) :
    split separator (first ++ separator :: rest) =
      (first, (split separator rest).1 :: (split separator rest).2) := by
  induction first with
  | nil => simp only [List.nil_append, split, if_true]
  | cons character first ih =>
    rw [List.mem_cons, not_or] at free
    simp only [List.cons_append, split, if_neg (Ne.symm free.1), ih free.2]

/-- Pieces without the separator that are joined with it are those that the text is split into. -/
theorem split_intercalate {separator : Char} {first : List Char} {others : List (List Char)}
    (free : ∀ piece ∈ first :: others, separator ∉ piece) :
    split separator ([separator].intercalate (first :: others)) = (first, others) := by
  induction others generalizing first with
  | nil =>
    rw [List.intercalate_singleton]
    exact split_of_not_mem (free first List.mem_cons_self)
  | cons second others ih =>
    rw [List.intercalate_cons_cons, List.append_assoc, List.singleton_append,
      split_append (free first List.mem_cons_self),
      ih fun piece member => free piece (List.mem_cons_of_mem first member)]

end Stencil.Text
