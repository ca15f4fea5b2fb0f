import Mathlib.Data.List.TakeWhile
import Stencil.Proofs.Accessor.Tables
import Stencil.Scope.Basic

/-!
# Looking a path up without keeping anything

The value that a text leads to, computed from a value and some bindings alone:

* the word for the value itself, in any case, is the value (`lookup`);
* otherwise one leading word for it, with its point, is left out;
* the name before the first point is the most recent binding of that name, or else
  the member of the value;
* what stands behind that point is looked up in the value so found, without
  bindings, and in nothing if there is none.

Scopes read paths that have been taken apart into names (`Path.ofText`).  Looking
up the text and looking up the path made of it is the same (`lookup_eq_find`).
-/

set_option autoImplicit false

namespace Stencil

/-! ## Members -/

/-- The member of a value: an entry of a map, or a property or else a field of an object. -/
def Value.member? (host : Host) (value : Value) (name : String) : Option Value :=
  match value with
  | .map entries => Entries.get? entries name
  | .object handle => (Accessor.new host handle).valueNamed? host name
  | _ => none

namespace Scope

section Definitions

variable (host : Host)

/-- The value that a name is read in as the first name of a longer path.  Nothing stands for a
member that is not there. -/
def base (value : Value) (locals : List (String × Value)) (name : String) : Value :=
  (Entries.get? locals name).getD ((value.member? host name).getD .null)

/-- The value under a path in a value with some bindings. -/
def find : Path → Value → List (String × Value) → Option Value
  | .this, value, _ => some value
  | .name name, value, locals => (Entries.get? locals name).or (value.member? host name)
  | .step name rest, value, locals => find rest (base host value locals name) []

/-- A text without one leading word for the value itself and the point behind it. -/
def withoutThis (text : List Char) : List Char :=
  if Text.alike (text.take 5) ['t', 'h', 'i', 's', '.'] then text.drop 5 else text

/-- What is left of a text behind its first point is shorter. -/
theorem length_behind_point {text rest : List Char} {point : Char}
    (behind : (withoutThis text).dropWhile (· != '.') = point :: rest) :
    rest.length < text.length := by
  have shorter : (withoutThis text).length ≤ text.length := by
    rw [withoutThis]
    split
    · exact (List.drop_sublist 5 text).length_le
    · exact Nat.le_refl _
  have dropped := (List.dropWhile_sublist (· != '.') (l := withoutThis text)).length_le
  rw [behind, List.length_cons] at dropped
  omega

/-- The value that a text leads to in a value with some bindings. -/
def lookup (value : Value) (locals : List (String × Value)) (text : List Char) : Option Value :=
  if Path.isThis text then some value
  else
    let head := String.ofList ((withoutThis text).takeWhile (· != '.'))
    match behind : (withoutThis text).dropWhile (· != '.') with
    | [] => (Entries.get? locals head).or (value.member? host head)
    | _ :: rest =>
      have := length_behind_point behind
      lookup (base host value locals head) [] rest
termination_by text.length

end Definitions

end Scope

/-! ## The names of a path -/

/-- A text is split at its first point, and behind that point again. -/
theorem Text.split_eq (separator : Char) (text : List Char) :
    split separator text =
      (text.takeWhile (· != separator),
        match text.dropWhile (· != separator) with
        | [] => []
        | _ :: rest => (split separator rest).1 :: (split separator rest).2) := by
  induction text with
  | nil => rfl
  | cons character rest ih =>
    by_cases same : character = separator
    · subst same
      simp [split]
    · have other : (character != separator) = true := by simpa using same
      simp only [split, if_neg same, List.takeWhile_cons, List.dropWhile_cons, other, if_true]
      rw [ih]

namespace Path

/-- The path of some names, none of which is left out in front. -/
def ofNames (first : List Char) : List (List Char) → Path
  | [] => .name (.ofList first)
  | second :: rest => .step (.ofList first) (ofSegments second rest)

theorem ofSegments_nil (segment : List Char) :
    ofSegments segment [] = if isThis segment then .this else ofNames segment [] := by
  rw [ofSegments, ofNames]

theorem ofSegments_cons (first second : List Char) (rest : List (List Char)) :
    ofSegments first (second :: rest) =
      if isThis first then ofNames second rest else ofNames first (second :: rest) := by
  cases rest with
  | nil => rw [ofSegments, ofNames, ofNames]
  | cons third rest => rw [ofSegments, ofNames, ofNames]

/-- A first name that is not the word for the value itself is not left out. -/
theorem ofSegments_of_not_isThis {first : List Char} (other : ¬ isThis first)
    (rest : List (List Char)) : ofSegments first rest = ofNames first rest := by
  cases rest with
  | nil => rw [ofSegments_nil, if_neg other]
  | cons second rest => rw [ofSegments_cons, if_neg other]

/-- A text without a point is a single name or the word for the value itself. -/
theorem ofText_of_point_not_mem {text : List Char} (free : '.' ∉ text) :
    ofText text = if isThis text then .this else .name (.ofList text) := by
  rw [ofText, Text.split_of_not_mem free, ofSegments_nil, ofNames]

/-- A name in front of a point is left out if it is the word for the value itself. -/
theorem ofText_append_point {first : List Char} (free : '.' ∉ first) (rest : List Char) :
    ofText (first ++ '.' :: rest) =
      if isThis first then ofNames (Text.split '.' rest).1 (Text.split '.' rest).2
      else .step (.ofList first) (ofText rest) := by
  rw [ofText, Text.split_append free, ofSegments_cons, ofNames]
  rfl

theorem ofNames_split (text : List Char) :
    ofNames (Text.split '.' text).1 (Text.split '.' text).2 =
      match text.dropWhile (· != '.') with
      | [] => .name (.ofList (text.takeWhile (· != '.')))
      | _ :: rest => .step (.ofList (text.takeWhile (· != '.'))) (ofText rest) := by
  rw [Text.split_eq]
  cases text.dropWhile (· != '.') with
  | nil => rfl
  | cons point rest => rfl

/-- Only the point itself is a point in lower case. -/
theorem eq_point_of_toLower {character : Char} (lower : character.toLower = '.') :
    character = '.' := by
  unfold Char.toLower at lower
  split at lower
  · next upper =>
    have shifted : (character.val.toNat + 32) % 2 ^ 32 = 46 :=
      congrArg (fun result : Char => result.val.toNat) lower
    have large : 65 ≤ character.val.toNat := UInt32.le_iff_toNat_le.mp upper.1
    have small : character.val.toNat ≤ 90 := UInt32.le_iff_toNat_le.mp upper.2
    omega
  · exact lower

theorem point_not_mem_of_isThis {text : List Char} (isThis : isThis text) : '.' ∉ text := by
  intro member
  have lower : '.' ∈ text.map Char.toLower := List.mem_map.mpr ⟨'.', member, rfl⟩
  rw [Text.alike_iff.mp isThis] at lower
  exact absurd lower (by decide)

/-- The word for the value itself starts with no blank. -/
theorem trimStart_of_isThis {text : List Char} (isThis : isThis text) :
    Text.trimStart text = text := by
  have lower : text.map Char.toLower = ['t', 'h', 'i', 's'] := Text.alike_iff.mp isThis
  cases text with
  | nil => rfl
  | cons first rest =>
    apply Text.trimStart_cons_of_not_blank
    by_contra blank
    rw [Bool.not_eq_false] at blank
    rw [List.map_cons, List.cons.injEq, Text.toLower_of_isBlank blank] at lower
    rw [lower.1] at blank
    exact absurd blank (by decide)

theorem ofText_of_isThis {text : List Char} (isThis : isThis text) : ofText text = .this := by
  rw [ofText_of_point_not_mem (point_not_mem_of_isThis isThis), if_pos isThis]

/-- A text that starts like the word for the value itself and a point starts with these. -/
theorem exists_of_alike_take {text : List Char}
    (starts : Text.alike (text.take 5) ['t', 'h', 'i', 's', '.']) :
    ∃ word, isThis word ∧ text = word ++ '.' :: text.drop 5 := by
  have lower := Text.alike_iff.mp starts
  rcases text with _ | ⟨first, _ | ⟨second, _ | ⟨third, _ | ⟨fourth, _ | ⟨fifth, rest⟩⟩⟩⟩⟩
  all_goals simp only [List.take, List.map_cons, List.map_nil, List.cons.injEq] at lower
  all_goals try simp at lower
  obtain ⟨one, two, three, four, five⟩ := lower
  have point : fifth = '.' := eq_point_of_toLower five
  subst point
  refine ⟨[first, second, third, fourth], Text.alike_iff.mpr ?_, rfl⟩
  simp only [List.map_cons, List.map_nil, one, two, three, four]
  rfl

theorem ofText_eq {text : List Char} (other : ¬ isThis text) :
    ofText text =
      ofNames (Text.split '.' (Scope.withoutThis text)).1
        (Text.split '.' (Scope.withoutThis text)).2 := by
  rw [Scope.withoutThis]
  split
  · next starts =>
    obtain ⟨word, isWord, whole⟩ := exists_of_alike_take starts
    rw [whole, ofText_append_point (point_not_mem_of_isThis isWord), if_pos isWord, ← whole]
  · next starts =>
    have joined := Text.join_split '.' text
    rw [ofText]
    cases behind : (Text.split '.' text).2 with
    | nil =>
      have whole : (Text.split '.' text).1 = text := by simpa [behind] using joined
      rw [ofSegments_nil, whole, if_neg other]
    | cons second rest =>
      rw [ofSegments_cons, if_neg]
      -- a first name that is the word for the value itself would have been left out
      intro isWord
      have length : (Text.split '.' text).1.length = 4 := by
        simpa using congrArg List.length (Text.alike_iff.mp isWord)
      apply starts
      rw [← joined, behind, List.flatMap_cons, List.take_append, length, Text.alike_iff]
      simp [List.take_of_length_le, length, Text.alike_iff.mp isWord]

end Path

namespace Scope

variable (host : Host)

/-- Looking a text up is looking up the path made of it. -/
theorem lookup_eq_find (value : Value) (locals : List (String × Value)) (text : List Char) :
    lookup host value locals text = find host (.ofText text) value locals := by
  fun_induction lookup host value locals text with
  | case1 value locals text isThis => rw [Path.ofText_of_isThis isThis, find]
  | case2 value locals text other head behind =>
    rw [Path.ofText_eq other, Path.ofNames_split, behind, find]
  | case3 value locals text other head point rest behind shorter ih =>
    rw [Path.ofText_eq other, Path.ofNames_split, behind, ih, find]

end Scope

end Stencil
