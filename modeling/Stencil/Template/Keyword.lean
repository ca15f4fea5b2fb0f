/-!
# Keywords

The first word of a tag.  Five words have a meaning; every other word, and the
missing word of an empty tag, is kept as it is, so that no word is lost
(`Keyword.word_ofWord`) and two words never share a keyword
(`Keyword.ofWord_injective`).
-/

set_option autoImplicit false

namespace Stencil

/-- The first word of a tag. -/
inductive Keyword
  /-- The word that opens a loop. -/
  | loop
  /-- The word that closes a loop. -/
  | endLoop
  /-- The word that opens a condition. -/
  | condition
  /-- The word between the two branches of a condition. -/
  | otherwise
  /-- The word that closes a condition. -/
  | endCondition
  /-- A word without a meaning. -/
  | unknown (word : String)
  deriving DecidableEq, Repr

namespace Keyword

/-- The word of a keyword. -/
def word : Keyword → String
  | .loop => "foreach"
  | .endLoop => "endfor"
  | .condition => "if"
  | .otherwise => "else"
  | .endCondition => "endif"
  | .unknown word => word

/-- The keyword of a word. -/
def ofWord (word : String) : Keyword :=
  if word = Keyword.loop.word then .loop
  else if word = Keyword.endLoop.word then .endLoop
  else if word = Keyword.condition.word then .condition
  else if word = Keyword.otherwise.word then .otherwise
  else if word = Keyword.endCondition.word then .endCondition
  else .unknown word

/-- A word is the word of its keyword. -/
@[simp]
theorem word_ofWord (text : String) : (ofWord text).word = text := by
  unfold ofWord
  split
  · next same => exact same.symm
  split
  · next same => exact same.symm
  split
  · next same => exact same.symm
  split
  · next same => exact same.symm
  split
  · next same => exact same.symm
  · rfl

/-- Words with one keyword are the same. -/
theorem ofWord_injective {left right : String} (same : ofWord left = ofWord right) :
    left = right := by
  rw [← word_ofWord left, same, word_ofWord]

end Keyword

end Stencil
