import Stencil.Text.Blank
import Stencil.Text.Hidden.Table

/-!
# Characters that do not show

A character shows when it has a shape of its own.  Controls, blanks other than
the space (`isHidden_of_isBlank`), marks that are drawn on their neighbour, fillers
and code points without a character do not.  Of ASCII, everything from the space
to the tilde shows (`isHidden_ascii`), which is decided without a table.
-/

set_option autoImplicit false

namespace Stencil.Text

/-- Whether a code point would not show by itself. -/
def isHiddenCode (code : Nat) : Bool :=
  code < 0x20 ||
    (0x7F ≤ code &&
      (covered unshaped code || covered fillers code || covered attachedMarks code
        || covered unassigned code))

/-- Whether a character would not show by itself. -/
def isHidden (character : Char) : Bool :=
  isHiddenCode character.toNat

/-- The printable characters of ASCII show. -/
theorem isHidden_ascii {character : Char} (first : 0x20 ≤ character.toNat)
    (last : character.toNat < 0x7F) : isHidden character = false := by
  simp only [isHidden, isHiddenCode, Bool.or_eq_false_iff, Bool.and_eq_false_iff,
    decide_eq_false_iff_not]
  exact ⟨by omega, Or.inl (by omega)⟩

/-- Of the blanks only the space shows. -/
theorem isHidden_of_isBlank {character : Char} (blank : isBlank character = true)
    (solid : character ≠ ' ') : isHidden character = true := by
  have listed : ∀ code ∈ blanks, code ≠ 0x20 → isHiddenCode code = true := by decide
  have member : character.toNat ∈ blanks := by simpa [isBlank] using blank
  exact listed character.toNat member fun same => solid (Char.toNat_inj.mp same)

end Stencil.Text
