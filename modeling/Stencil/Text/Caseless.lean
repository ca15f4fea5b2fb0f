/-!
# Comparison without regard to ASCII case

Two texts are alike when they differ only in the case of the letters `A` to `Z`.
Letters outside ASCII have to be the same.
-/

set_option autoImplicit false

namespace Stencil.Text

/-- Whether two texts are the same up to the case of ASCII letters. -/
def alike (left right : List Char) : Bool :=
  left.map Char.toLower == right.map Char.toLower

@[simp]
theorem alike_self (text : List Char) : alike text text = true :=
  beq_self_eq_true _

theorem alike_iff {left right : List Char} :
    alike left right = true ↔ left.map Char.toLower = right.map Char.toLower :=
  beq_iff_eq

end Stencil.Text
