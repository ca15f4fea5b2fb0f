import Mathlib.Data.String.Basic
import Stencil.Text.Cut

/-!
# Places in a text by byte offsets

An offset counts the bytes of the UTF-8 form of a text.  A piece of a text can be
cut out between two offsets if they stand in order and both fall between two
characters (`IsSlice`, in terms of the positions of core); `slice?` cuts it out,
and gives nothing otherwise (`isSome_slice?`).

`Between` says which piece stands between two offsets, and splits and joins
as the text does.  It is what `slice?` computes (`slice?_eq_some_iff`).
-/

set_option autoImplicit false

namespace Stencil.Text

open String (utf8Len utf8Len_nil utf8Len_cons utf8Len_append utf8Len_eq_zero)

/-! ## Pieces of a text -/

/-- The piece that stands between two offsets of a text. -/
def Between (text : List Char) (start stop : Nat) (piece : List Char) : Prop :=
  ∃ before after, text = before ++ piece ++ after ∧ utf8Len before = start ∧
    start + utf8Len piece = stop

/-- Two beginnings of one text are the same if they have the same number of bytes. -/
theorem eq_of_utf8Len_eq {left right behindLeft behindRight : List Char}
    (same : left ++ behindLeft = right ++ behindRight) (bytes : utf8Len left = utf8Len right) :
    left = right := by
  rcases List.append_eq_append_iff.mp same with ⟨more, rfl, -⟩ | ⟨more, rfl, -⟩
  · have empty : utf8Len more = 0 := by
      rw [utf8Len_append] at bytes
      omega
    rw [utf8Len_eq_zero.mp empty, List.append_nil]
  · have empty : utf8Len more = 0 := by
      rw [utf8Len_append] at bytes
      omega
    rw [utf8Len_eq_zero.mp empty, List.append_nil]

namespace Between

variable {text piece : List Char} {start stop : Nat}

theorem whole (text : List Char) : Between text 0 (utf8Len text) text :=
  ⟨[], [], by simp, rfl, Nat.zero_add _⟩

theorem stop_eq (here : Between text start stop piece) : stop = start + utf8Len piece := by
  obtain ⟨-, -, -, -, width⟩ := here
  exact width.symm

theorem ordered (here : Between text start stop piece) : start ≤ stop :=
  here.stop_eq ▸ Nat.le_add_right _ _

/-- A part of a piece stands between offsets of its own. -/
theorem part {left inner right : List Char}
    (here : Between text start stop (left ++ inner ++ right)) :
    Between text (start + utf8Len left) (start + utf8Len left + utf8Len inner) inner := by
  obtain ⟨before, after, rfl, rfl, -⟩ := here
  exact ⟨before ++ left, right ++ after, by simp, utf8Len_append _ _, rfl⟩

/-- The first part of a piece. -/
theorem left {left right : List Char} (here : Between text start stop (left ++ right)) :
    Between text start (start + utf8Len left) left := by
  have first : Between text start stop ([] ++ left ++ right) := here
  simpa using first.part

/-- The last part of a piece. -/
theorem right {left right : List Char} (here : Between text start stop (left ++ right)) :
    Between text (start + utf8Len left) stop right := by
  have last : Between text start stop (left ++ right ++ []) := by rwa [List.append_nil]
  have width := here.stop_eq
  rw [utf8Len_append, ← Nat.add_assoc] at width
  exact width ▸ last.part

/-- What stands from the start of a piece up to the end of the text. -/
theorem exists_to_end (here : Between text start stop piece) :
    ∃ after, Between text start (utf8Len text) (piece ++ after) := by
  obtain ⟨before, after, rfl, rfl, -⟩ := here
  exact ⟨after, before, [], by simp, rfl, by simp⟩

/-- Two pieces that meet make up one. -/
theorem join {first second : List Char} {middle : Nat} (here : Between text start middle first)
    (next : Between text middle stop second) : Between text start stop (first ++ second) := by
  obtain ⟨before, after, rfl, rfl, width⟩ := here
  obtain ⟨before', after', same, start', width'⟩ := next
  rw [List.append_assoc before'] at same
  -- Both texts before the second piece end at the offset where the pieces meet.
  obtain rfl : before ++ first = before' :=
    eq_of_utf8Len_eq same (by rw [utf8Len_append, width, start'])
  refine ⟨before, after', ?_, rfl, ?_⟩
  · rw [same]
    simp only [List.append_assoc]
  · rw [utf8Len_append, ← Nat.add_assoc, width, width']

end Between

/-! ## Offsets that a text can be cut at -/

/-- Whether a text can be cut at two offsets, the first not behind the second. -/
structure IsSlice (text : List Char) (start stop : Nat) : Prop where
  ordered : start ≤ stop
  starts : (⟨start⟩ : String.Pos.Raw).IsValid (.ofList text)
  stops : (⟨stop⟩ : String.Pos.Raw).IsValid (.ofList text)

/-- The positions of core are the ends of the beginnings of a text. -/
theorem isValid_iff_exists {text : List Char} {offset : Nat} :
    (⟨offset⟩ : String.Pos.Raw).IsValid (.ofList text) ↔
      ∃ before after, text = before ++ after ∧ utf8Len before = offset := by
  rw [String.Pos.Raw.isValid_iff_exists_append]
  constructor
  · rintro ⟨before, after, whole, place⟩
    refine ⟨before.toList, after.toList, ?_, ?_⟩
    · rw [← String.toList_append, ← whole, String.toList_ofList]
    · rw [String.utf8Len_toList]
      exact (congrArg String.Pos.Raw.byteIdx place).symm
  · rintro ⟨before, after, rfl, rfl⟩
    exact ⟨.ofList before, .ofList after, String.ofList_append,
      (String.rawEndPos_ofList before).symm⟩

theorem isSlice_iff_exists_between {text : List Char} {start stop : Nat} :
    IsSlice text start stop ↔ ∃ piece, Between text start stop piece := by
  constructor
  · rintro ⟨ordered, starts, stops⟩
    obtain ⟨before, after, rfl, rfl⟩ := isValid_iff_exists.mp starts
    obtain ⟨before', after', same, rfl⟩ := isValid_iff_exists.mp stops
    rcases List.append_eq_append_iff.mp same with ⟨piece, rfl, rfl⟩ | ⟨more, rfl, -⟩
    · exact ⟨piece, before, after', by simp, rfl, (utf8Len_append _ _).symm⟩
    · rw [utf8Len_append] at ordered ⊢
      exact ⟨[], before' ++ more, after, by simp, utf8Len_append _ _,
        by rw [utf8Len_nil]; omega⟩
  · rintro ⟨piece, here⟩
    obtain ⟨before, after, rfl, rfl, rfl⟩ := id here
    exact ⟨here.ordered, isValid_iff_exists.mpr ⟨before, piece ++ after, by simp, rfl⟩,
      isValid_iff_exists.mpr ⟨before ++ piece, after, rfl, utf8Len_append _ _⟩⟩

theorem Between.isSlice {text piece : List Char} {start stop : Nat}
    (here : Between text start stop piece) : IsSlice text start stop :=
  isSlice_iff_exists_between.mpr ⟨piece, here⟩

/-- The offsets that a string can be cut at stand in order and are positions of it. -/
theorem isSlice_toList_iff {text : String} {start stop : Nat} :
    IsSlice text.toList start stop ↔ start ≤ stop ∧ stop ≤ text.utf8ByteSize ∧
      (⟨start⟩ : String.Pos.Raw).IsValid text ∧ (⟨stop⟩ : String.Pos.Raw).IsValid text := by
  constructor
  · intro range
    obtain ⟨piece, before, after, whole, rfl, rfl⟩ := isSlice_iff_exists_between.mp range
    have width := congrArg utf8Len whole
    rw [String.utf8Len_toList, utf8Len_append, utf8Len_append] at width
    obtain ⟨ordered, starts, stops⟩ := range
    rw [String.ofList_toList] at starts stops
    exact ⟨ordered, by omega, starts, stops⟩
  · rintro ⟨ordered, -, starts, stops⟩
    rw [← String.ofList_toList (s := text)] at starts stops
    exact ⟨ordered, starts, stops⟩

/-! ## Cutting a piece out -/

/-- A text without its first bytes, if they are those of whole characters. -/
def dropBytes : Nat → List Char → Option (List Char)
  | 0, text => some text
  | _ + 1, [] => none
  | bytes + 1, character :: text =>
    if character.utf8Size ≤ bytes + 1 then dropBytes (bytes + 1 - character.utf8Size) text else none

/-- The first bytes of a text, if they are those of whole characters. -/
def takeBytes : Nat → List Char → Option (List Char)
  | 0, _ => some []
  | _ + 1, [] => none
  | bytes + 1, character :: text =>
    if character.utf8Size ≤ bytes + 1 then
      (takeBytes (bytes + 1 - character.utf8Size) text).map (character :: ·)
    else none

/-- The piece between two offsets of a text, if the text can be cut there. -/
def slice? (text : List Char) (start stop : Nat) : Option (List Char) :=
  if start ≤ stop then (dropBytes start text).bind (takeBytes (stop - start)) else none

theorem dropBytes_eq_some_iff {bytes : Nat} {text rest : List Char} :
    dropBytes bytes text = some rest ↔
      ∃ before, text = before ++ rest ∧ utf8Len before = bytes := by
  fun_induction dropBytes bytes text with
  | case1 text =>
    constructor
    · rintro ⟨⟩
      exact ⟨[], rfl, rfl⟩
    · rintro ⟨before, rfl, empty⟩
      rw [utf8Len_eq_zero.mp empty, List.nil_append]
  | case2 bytes =>
    simp only [reduceCtorEq, false_iff, not_exists, not_and]
    intro before whole
    obtain ⟨rfl, -⟩ := List.append_eq_nil_iff.mp whole.symm
    simp
  | case3 bytes character text fits ih =>
    rw [ih]
    constructor
    · rintro ⟨before, rfl, width⟩
      exact ⟨character :: before, rfl, by rw [utf8Len_cons, width, Nat.sub_add_cancel fits]⟩
    · rintro ⟨before, whole, width⟩
      cases before with
      | nil => simp at width
      | cons first before =>
        obtain ⟨rfl, rfl⟩ : character = first ∧ text = before ++ rest := by simpa using whole
        rw [utf8Len_cons] at width
        exact ⟨before, rfl, by omega⟩
  | case4 bytes character text short =>
    simp only [reduceCtorEq, false_iff, not_exists, not_and]
    rintro (_ | ⟨first, before⟩) whole width
    · simp at width
    · obtain ⟨rfl, -⟩ : character = first ∧ text = before ++ rest := by simpa using whole
      rw [utf8Len_cons] at width
      omega

theorem takeBytes_eq_some_iff {bytes : Nat} {text piece : List Char} :
    takeBytes bytes text = some piece ↔
      (∃ after, text = piece ++ after) ∧ utf8Len piece = bytes := by
  fun_induction takeBytes bytes text generalizing piece with
  | case1 text =>
    rw [Option.some.injEq, utf8Len_eq_zero, eq_comm, iff_and_self]
    rintro rfl
    exact ⟨text, rfl⟩
  | case2 bytes =>
    simp only [reduceCtorEq, false_iff, not_and, forall_exists_index]
    intro after whole
    obtain ⟨rfl, -⟩ := List.append_eq_nil_iff.mp whole.symm
    simp
  | case3 bytes character text fits ih =>
    rw [Option.map_eq_some_iff]
    constructor
    · rintro ⟨inner, taken, rfl⟩
      obtain ⟨⟨after, rfl⟩, width⟩ := ih.mp taken
      refine ⟨⟨after, rfl⟩, ?_⟩
      rw [utf8Len_cons]
      omega
    · rintro ⟨⟨after, whole⟩, width⟩
      cases piece with
      | nil => simp at width
      | cons first inner =>
        obtain ⟨rfl, rfl⟩ : character = first ∧ text = inner ++ after := by simpa using whole
        rw [utf8Len_cons] at width
        exact ⟨inner, ih.mpr ⟨⟨after, rfl⟩, by omega⟩, rfl⟩
  | case4 bytes character text short =>
    simp only [reduceCtorEq, false_iff, not_and, forall_exists_index]
    intro after whole width
    cases piece with
    | nil => simp at width
    | cons first inner =>
      obtain ⟨rfl, -⟩ : character = first ∧ text = inner ++ after := by simpa using whole
      rw [utf8Len_cons] at width
      omega

/-- What is cut out between two offsets is the piece that stands between them. -/
theorem slice?_eq_some_iff {text piece : List Char} {start stop : Nat} :
    slice? text start stop = some piece ↔ Between text start stop piece := by
  unfold slice?
  constructor
  · intro sliced
    split at sliced
    · next ordered =>
      obtain ⟨rest, dropped, taken⟩ := Option.bind_eq_some_iff.mp sliced
      obtain ⟨before, rfl, width⟩ := dropBytes_eq_some_iff.mp dropped
      obtain ⟨⟨after, rfl⟩, width'⟩ := takeBytes_eq_some_iff.mp taken
      exact ⟨before, after, by simp, width, by omega⟩
    · cases sliced
  · intro here
    rw [if_pos here.ordered]
    obtain ⟨before, after, rfl, rfl, rfl⟩ := here
    refine Option.bind_eq_some_iff.mpr ⟨piece ++ after, ?_, ?_⟩
    · exact dropBytes_eq_some_iff.mpr ⟨before, by simp, rfl⟩
    · exact takeBytes_eq_some_iff.mpr ⟨⟨after, rfl⟩, by omega⟩

theorem Between.slice? {text piece : List Char} {start stop : Nat}
    (here : Between text start stop piece) : slice? text start stop = some piece :=
  slice?_eq_some_iff.mpr here

/-- Between two offsets stands one piece. -/
theorem Between.unique {text piece other : List Char} {start stop : Nat}
    (here : Between text start stop piece) (there : Between text start stop other) :
    piece = other :=
  Option.some.inj (here.slice?.symm.trans there.slice?)

/-- A piece can be cut out exactly between offsets in order that both fall between characters. -/
theorem isSome_slice? {text : List Char} {start stop : Nat} :
    (slice? text start stop).isSome ↔ IsSlice text start stop := by
  rw [Option.isSome_iff_exists, isSlice_iff_exists_between]
  exact exists_congr fun _ => slice?_eq_some_iff

example : slice? "é!".toList 0 1 = none ∧ slice? "é!".toList 2 3 = some ['!'] := by decide

/-! ## Finding a mark -/

/-- The offset of the first occurrence of a mark between two offsets of a text.  There is no answer
when the text cannot be cut at the offsets. -/
def findMark (text : List Char) (mark : Mark) (start stop : Nat) : Option (Option Nat) := do
  let piece ← slice? text start stop
  return (cutAt mark piece).map fun cut => start + utf8Len cut.1

theorem Between.findMark {text piece : List Char} {start stop : Nat}
    (here : Between text start stop piece) (mark : Mark) :
    findMark text mark start stop =
      some ((cutAt mark piece).map fun cut => start + utf8Len cut.1) := by
  rw [Text.findMark, here.slice?]
  rfl

end Stencil.Text
