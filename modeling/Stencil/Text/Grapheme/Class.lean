/-!
# Grapheme break classes

A character takes part in the division of a text into user-perceived characters
through its break class alone.  The classes are those of extended grapheme
clusters in version 10.0 of the Unicode standard, in which emoji have four
classes of their own: the bases that take a skin tone, the bases that also join
after a zero-width joiner, the skin tones, and the signs that only join after a
zero-width joiner.
-/

set_option autoImplicit false

namespace Stencil.Text

/-- The break class of a character. -/
inductive GraphemeClass
  /-- Carriage return. -/
  | carriageReturn
  /-- Line feed. -/
  | lineFeed
  /-- Controls, format characters and line separators. -/
  | control
  /-- Marks that extend the character before them. -/
  | extend
  /-- The zero-width joiner. -/
  | joiner
  /-- Signs that stand before the character they belong to. -/
  | prepend
  /-- Marks that take room of their own. -/
  | spacing
  /-- Hangul leading consonants. -/
  | leading
  /-- Hangul vowels. -/
  | vowel
  /-- Hangul trailing consonants. -/
  | trailing
  /-- Hangul syllables without a trailing consonant. -/
  | openSyllable
  /-- Hangul syllables with a trailing consonant. -/
  | closedSyllable
  /-- Regional indicators, two of which make a flag. -/
  | regional
  /-- Emoji that take a skin tone. -/
  | base
  /-- Emoji that take a skin tone and join after a zero-width joiner. -/
  | joinedBase
  /-- Skin tones. -/
  | modifier
  /-- Emoji that join after a zero-width joiner. -/
  | joined
  /-- Every other character. -/
  | other
  deriving DecidableEq, Repr

end Stencil.Text
