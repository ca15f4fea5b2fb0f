/-!
# Blank characters

The characters that separate words in a tag and that are dropped around a path.
They are the twenty-five code points with the Unicode property `White_Space`, a
property that has not changed for many versions of the standard.  Core's own
notion of white space knows the ASCII ones only; each of those is blank here
(`isBlank_of_isWhitespace`).

Trimming removes the blanks at both ends of a text and leaves the inner ones.  Blanks
put around a text are trimmed away with its own (`trim_append`), and a text with no blank
at either end is left as it is (`trim_of_hasSolidEnds`).
-/

set_option autoImplicit false

namespace Stencil.Text

/-- The code points of the blank characters, in order. -/
def blanks : List Nat :=
  [0x9, 0xA, 0xB, 0xC, 0xD, 0x20, 0x85, 0xA0, 0x1680, 0x2000, 0x2001, 0x2002, 0x2003, 0x2004,
    0x2005, 0x2006, 0x2007, 0x2008, 0x2009, 0x200A, 0x2028, 0x2029, 0x202F, 0x205F, 0x3000]

/-- Whether a character is blank. -/
def isBlank (character : Char) : Bool :=
  blanks.contains character.toNat

/-- The text without the blanks it starts with. -/
def trimStart (text : List Char) : List Char :=
  text.dropWhile isBlank

/-- The text without the blanks it ends with. -/
def trimEnd (text : List Char) : List Char :=
  (text.reverse.dropWhile isBlank).reverse

/-- The text without the blanks it starts and ends with. -/
def trim (text : List Char) : List Char :=
  trimEnd (trimStart text)

/-- What core calls white space is blank. -/
theorem isBlank_of_isWhitespace {character : Char} (white : character.isWhitespace = true) :
    isBlank character = true := by
  simp only [Char.isWhitespace, Bool.or_eq_true, decide_eq_true_eq] at white
  rcases white with (((h | h) | h) | h) <;> subst h <;> decide

/-- No blank is a letter in upper case. -/
theorem toLower_of_isBlank {character : Char} (blank : isBlank character = true) :
    character.toLower = character := by
  unfold Char.toLower
  rw [dif_neg]
  intro upper
  have large : 65 ≤ character.toNat := UInt32.le_iff_toNat_le.mp upper.1
  have small : character.toNat ≤ 90 := UInt32.le_iff_toNat_le.mp upper.2
  simp only [isBlank, blanks, List.contains_cons, List.contains_nil, Bool.or_eq_true,
    beq_iff_eq, Bool.false_eq_true, or_false] at blank
  omega

/-- A text that starts with no blank is not changed at its start. -/
theorem trimStart_cons_of_not_blank {character : Char} {text : List Char}
    (solid : isBlank character = false) : trimStart (character :: text) = character :: text := by
  simp only [trimStart, List.dropWhile_cons, solid, Bool.false_eq_true, if_false]

@[simp]
theorem trim_nil : trim [] = [] := rfl

/-! ## Blanks around a text -/

/-- The texts of blank characters alone. -/
def AllBlank (text : List Char) : Prop :=
  ∀ character ∈ text, isBlank character = true

instance (text : List Char) : Decidable (AllBlank text) :=
  List.decidableBAll (fun character => isBlank character = true) text

/-- The texts that neither start nor end with a blank. -/
structure HasSolidEnds (text : List Char) : Prop where
  first : ∀ character ∈ text.head?, isBlank character = false
  last : ∀ character ∈ text.getLast?, isBlank character = false

theorem hasSolidEnds_iff {text : List Char} :
    HasSolidEnds text ↔ text.head?.all (!isBlank ·) ∧ text.getLast?.all (!isBlank ·) := by
  simp only [Option.all_eq_true, Bool.not_eq_true']
  exact ⟨fun solid => ⟨solid.first, solid.last⟩, fun ends => ⟨ends.1, ends.2⟩⟩

instance (text : List Char) : Decidable (HasSolidEnds text) :=
  decidable_of_iff _ hasSolidEnds_iff.symm

theorem trimEnd_append {text after : List Char} (blank : AllBlank after) :
    trimEnd (text ++ after) = trimEnd text := by
  have blankReversed : ∀ character ∈ after.reverse, isBlank character = true :=
    fun character member => blank character (List.mem_reverse.mp member)
  rw [trimEnd, List.reverse_append, List.dropWhile_append_of_pos blankReversed, trimEnd]

/-- Blanks around a text are trimmed away with its own. -/
theorem trim_append {before text after : List Char} (blankBefore : AllBlank before)
    (blankAfter : AllBlank after) : trim (before ++ text ++ after) = trim text := by
  rw [trim, trimStart, List.append_assoc, List.dropWhile_append_of_pos blankBefore,
    List.dropWhile_append, trim, trimStart]
  split
  · next empty =>
    have nothing : (after ++ []).dropWhile isBlank = [] := List.dropWhile_append_of_pos blankAfter
    rw [List.append_nil] at nothing
    rw [List.isEmpty_iff.mp empty, nothing]
  · exact trimEnd_append blankAfter

theorem trimStart_append_cons {separator : Char} (solid : isBlank separator = false)
    (before after : List Char) :
    trimStart (before ++ separator :: after) = trimStart before ++ separator :: after := by
  rw [trimStart, List.dropWhile_append, trimStart]
  split
  · next empty =>
    rw [List.isEmpty_iff.mp empty, List.nil_append]
    exact trimStart_cons_of_not_blank solid
  · rfl

theorem trimEnd_append_cons {separator : Char} (solid : isBlank separator = false)
    (before after : List Char) :
    trimEnd (before ++ separator :: after) = before ++ separator :: trimEnd after := by
  have reversed := trimStart_append_cons solid after.reverse before.reverse
  rw [trimStart, trimStart] at reversed
  rw [trimEnd, List.reverse_append, List.reverse_cons, List.append_assoc, List.singleton_append,
    reversed, List.reverse_append, List.reverse_cons, List.reverse_reverse, List.append_assoc,
    List.singleton_append, trimEnd]

/-- On either side of a character that is not blank only one end of a text is trimmed. -/
theorem trim_append_cons {separator : Char} (solid : isBlank separator = false)
    (before after : List Char) :
    trim (before ++ separator :: after) = trimStart before ++ separator :: trimEnd after := by
  rw [trim, trimStart_append_cons solid, trimEnd_append_cons solid]

theorem trimStart_of_hasSolidEnds {text : List Char} (solid : HasSolidEnds text) :
    trimStart text = text := by
  cases text with
  | nil => rfl
  | cons first rest => exact trimStart_cons_of_not_blank (solid.first first rfl)

theorem HasSolidEnds.reverse {text : List Char} (solid : HasSolidEnds text) :
    HasSolidEnds text.reverse where
  first := by
    rw [List.head?_reverse]
    exact solid.last
  last := by
    rw [List.getLast?_reverse]
    exact solid.first

theorem trimEnd_of_hasSolidEnds {text : List Char} (solid : HasSolidEnds text) :
    trimEnd text = text := by
  have start := trimStart_of_hasSolidEnds solid.reverse
  rw [trimStart] at start
  rw [trimEnd, start, List.reverse_reverse]

/-- A text with no blank at either end is left as it is. -/
theorem trim_of_hasSolidEnds {text : List Char} (solid : HasSolidEnds text) : trim text = text := by
  rw [trim, trimStart_of_hasSolidEnds solid, trimEnd_of_hasSolidEnds solid]

end Stencil.Text
