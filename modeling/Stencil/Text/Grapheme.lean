import Stencil.Text.Grapheme.Class
import Stencil.Text.Grapheme.Table

/-!
# Grapheme clusters

The division of a text into user-perceived characters, the extended grapheme
clusters of version 10.0 of the Unicode standard.

Whether two neighbouring characters belong together depends on their break
classes and on two facts about what stands to the left of them: whether the
marks before a skin tone follow an emoji that takes one, and whether an odd
number of regional indicators stands there.  `GraphemeState` carries exactly
that, `joins` is the table of rules, and `graphemes` cuts a text wherever the
rules do not join.

Nothing is lost or invented (`flatten_graphemes`) and no cluster is empty
(`ne_nil_of_mem_graphemes`).
-/

set_option autoImplicit false

namespace Stencil.Text

/-! ## Classes -/

/-- The break class of a code point. -/
def graphemeClassOfCode (code : Nat) : GraphemeClass :=
  if code = 0xD then .carriageReturn
  else if code = 0xA then .lineFeed
  else if code = 0x200D then .joiner
  else if 0x1F1E6 ≤ code ∧ code ≤ 0x1F1FF then .regional
  else if 0x1F3FB ≤ code ∧ code ≤ 0x1F3FF then .modifier
  else if 0x1F466 ≤ code ∧ code ≤ 0x1F469 then .joinedBase
  else if 0xAC00 ≤ code ∧ code ≤ 0xD7A3 then
    if (code - 0xAC00) % 28 = 0 then .openSyllable else .closedSyllable
  else if covered [⟨0x1100, 0x115F⟩, ⟨0xA960, 0xA97C⟩] code then .leading
  else if covered [⟨0x1160, 0x11A7⟩, ⟨0xD7B0, 0xD7C6⟩] code then .vowel
  else if covered [⟨0x11A8, 0x11FF⟩, ⟨0xD7CB, 0xD7FB⟩] code then .trailing
  else if covered controls code then .control
  else if covered extenders code then .extend
  else if covered spacingMarks code then .spacing
  else if covered bases code then .base
  else if covered joinedSigns code then .joined
  else if covered prepended code then .prepend
  else .other

/-- The break class of a character. -/
def graphemeClass (character : Char) : GraphemeClass :=
  graphemeClassOfCode character.toNat

/-- Whether a break stands on both sides of the class, whatever the neighbours are. -/
def GraphemeClass.isolated : GraphemeClass → Bool
  | .carriageReturn | .lineFeed | .control => true
  | _ => false

/-- Whether an emoji of the class takes a skin tone. -/
def GraphemeClass.takesTone : GraphemeClass → Bool
  | .base | .joinedBase => true
  | _ => false

/-! ## Rules -/

/-- What the division has to know about the characters already read. -/
structure GraphemeState where
  /-- The class of the last character. -/
  last : GraphemeClass
  /-- Whether the last character takes a skin tone, or ends a run of marks after one that does. -/
  toned : Bool
  /-- Whether an odd number of regional indicators ends here. -/
  unpaired : Bool
  deriving DecidableEq, Repr

/-- The state after the first character of a text. -/
def GraphemeState.start (first : GraphemeClass) : GraphemeState :=
  ⟨first, first.takesTone, first = .regional⟩

/-- The state after one more character. -/
def GraphemeState.advance (state : GraphemeState) (next : GraphemeClass) : GraphemeState where
  last := next
  toned := next.takesTone || (next = .extend && state.toned)
  unpaired := next = .regional && !(state.last = .regional && state.unpaired)

/-- Whether the next character belongs to the cluster of the last one. -/
def GraphemeState.joins (state : GraphemeState) (next : GraphemeClass) : Bool :=
  match state.last, next with
  | .carriageReturn, .lineFeed => true
  | last, next =>
    if last.isolated || next.isolated then false
    else
      match last, next with
      | .leading, .leading | .leading, .vowel | .leading, .openSyllable
      | .leading, .closedSyllable => true
      | .openSyllable, .vowel | .openSyllable, .trailing | .vowel, .vowel
      | .vowel, .trailing => true
      | .closedSyllable, .trailing | .trailing, .trailing => true
      | _, .extend | _, .joiner => true
      | _, .spacing => true
      | .prepend, _ => true
      | .base, .modifier | .joinedBase, .modifier => true
      | .extend, .modifier => state.toned
      | .joiner, .joined | .joiner, .joinedBase => true
      | .regional, .regional => state.unpaired
      | _, _ => false

/-! ## Clusters -/

/-- The rest of the cluster that is being read, and the clusters after it. -/
def continueCluster (state : GraphemeState) : List Char → List Char × List (List Char)
  | [] => ([], [])
  | character :: rest =>
    let next := graphemeClass character
    let (same, others) := continueCluster (state.advance next) rest
    if state.joins next then (character :: same, others) else ([], (character :: same) :: others)

/-- The grapheme clusters of a text, in order. -/
def graphemes : List Char → List (List Char)
  | [] => []
  | character :: rest =>
    let (same, others) := continueCluster (.start (graphemeClass character)) rest
    (character :: same) :: others

/-! ## Nothing is lost -/

/-- Reading on loses and invents nothing. -/
theorem append_flatten_continueCluster (state : GraphemeState) (text : List Char) :
    (continueCluster state text).1 ++ (continueCluster state text).2.flatten = text := by
  induction text generalizing state with
  | nil => rfl
  | cons character rest ih =>
    have tail := ih (state.advance (graphemeClass character))
    simp only [continueCluster]
    by_cases joined : state.joins (graphemeClass character) = true
    · rw [if_pos joined, List.cons_append, tail]
    · rw [if_neg joined, List.nil_append, List.flatten_cons, List.cons_append, tail]

/-- The clusters of a text make up the text. -/
theorem flatten_graphemes (text : List Char) : (graphemes text).flatten = text := by
  cases text with
  | nil => rfl
  | cons character rest =>
    simp only [graphemes, List.flatten_cons, List.cons_append, append_flatten_continueCluster]

/-- The clusters that follow the one being read are not empty. -/
theorem ne_nil_of_mem_continueCluster {state : GraphemeState} {text cluster : List Char}
    (member : cluster ∈ (continueCluster state text).2) : cluster ≠ [] := by
  induction text generalizing state with
  | nil => simp [continueCluster] at member
  | cons character rest ih =>
    simp only [continueCluster] at member
    by_cases joined : state.joins (graphemeClass character) = true
    · rw [if_pos joined] at member
      exact ih member
    · rw [if_neg joined] at member
      rcases List.mem_cons.mp member with rfl | later
      · exact List.cons_ne_nil _ _
      · exact ih later

/-- No cluster is empty. -/
theorem ne_nil_of_mem_graphemes {text cluster : List Char} (member : cluster ∈ graphemes text) :
    cluster ≠ [] := by
  cases text with
  | nil => simp [graphemes] at member
  | cons character rest =>
    simp only [graphemes] at member
    rcases List.mem_cons.mp member with rfl | later
    · exact List.cons_ne_nil _ _
    · exact ne_nil_of_mem_continueCluster later

end Stencil.Text
