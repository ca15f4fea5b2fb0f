import Stencil.Proofs.Template.Offset.Block
import Stencil.Proofs.Template.Offset.Listing

/-!
# Matching by counting

The end of a block depends on the list of the tags behind its opening tag alone
(`BlockAt.find_eq_ofTags`), and of each tag on no more than its keyword.  The closing
tags of a list less the opening ones are its *surplus*.  A block ends at the first tag
that brings the surplus to one, and the first middle tag before it that stands behind a
surplus of zero divides it.

The surplus goes up by one at most from tag to tag, so it cannot come above zero without
being one at some tag.  Before the end of a block it is therefore never positive, and the
list of the tags in any part of a block is *balanced*: it starts and ends at zero and never
rises above it.  An opening tag in a balanced list lowers the surplus, and the tags behind
it have to make up for that: its own block ends in the same part
(`BlockAt.find_by_counting`).
-/

set_option autoImplicit false

namespace Stencil.Template

open Text (Between IsSlice)

/-! ## The first place of a list with a property -/

/-- The first place of a list with a property that depends on what stands before it. -/
structure IsFirst {α : Type} (holds : List α → α → Prop) (list before : List α) (found : α)
    (after : List α) : Prop where
  split : list = before ++ found :: after
  here : holds before found
  earlier : ∀ first other rest, before = first ++ other :: rest → ¬ holds first other

section IsFirst

variable {α : Type} {holds : List α → α → Prop} {list before after : List α} {head found : α}

theorem not_isFirst_nil : ¬ IsFirst holds [] before found after := by
  rintro ⟨split, -, -⟩
  simp at split

theorem isFirst_cons_here (here : holds [] head) :
    IsFirst holds (head :: list) before found after ↔ before = [] ∧ found = head ∧ after = list := by
  constructor
  · rintro ⟨split, -, earlier⟩
    cases before with
    | nil =>
      obtain ⟨rfl, rfl⟩ := List.cons.inj split
      exact ⟨rfl, rfl, rfl⟩
    | cons first before =>
      obtain ⟨rfl, -⟩ := List.cons.inj split
      exact absurd here (earlier [] head before rfl)
  · rintro ⟨rfl, rfl, rfl⟩
    exact ⟨rfl, here, by simp⟩

theorem isFirst_cons_later (notHere : ¬ holds [] head) :
    IsFirst holds (head :: list) before found after ↔
      ∃ tail, before = head :: tail ∧
        IsFirst (fun first => holds (head :: first)) list tail found after := by
  constructor
  · rintro ⟨split, here, earlier⟩
    cases before with
    | nil =>
      obtain ⟨rfl, -⟩ := List.cons.inj split
      exact absurd here notHere
    | cons first before =>
      obtain ⟨rfl, same⟩ := List.cons.inj split
      refine ⟨before, rfl, same, here, ?_⟩
      rintro inner other rest rfl
      exact earlier (head :: inner) other rest rfl
  · rintro ⟨tail, rfl, rfl, here, earlier⟩
    refine ⟨rfl, here, ?_⟩
    rintro (_ | ⟨first, inner⟩) other rest split
    · obtain ⟨rfl, -⟩ := List.cons.inj split
      exact notHere
    · obtain ⟨rfl, same⟩ := List.cons.inj split
      exact earlier inner other rest same

/-- Where there is a place with a property there is a first one. -/
theorem exists_isFirst (split : list = before ++ found :: after) (here : holds before found) :
    ∃ before found after, IsFirst holds list before found after := by
  induction list generalizing holds before with
  | nil => simp at split
  | cons head list ih =>
    by_cases atHead : holds [] head
    · exact ⟨[], head, list, (isFirst_cons_here atHead).mpr ⟨rfl, rfl, rfl⟩⟩
    · cases before with
      | nil =>
        obtain ⟨rfl, -⟩ := List.cons.inj split
        exact absurd here atHead
      | cons first before =>
        obtain ⟨rfl, same⟩ := List.cons.inj split
        obtain ⟨tail, found, after, isFirst⟩ :=
          @ih (fun first => holds (head :: first)) before same here
        exact ⟨head :: tail, found, after, (isFirst_cons_later atHead).mpr ⟨tail, rfl, isFirst⟩⟩

theorem IsFirst.append_right (isFirst : IsFirst holds list before found after) (more : List α) :
    IsFirst holds (list ++ more) before found (after ++ more) :=
  { isFirst with split := by simp [isFirst.split] }

end IsFirst

/-! ## Counting tags -/

namespace BlockKind

/-- The keywords of a kind of block differ from each other. -/
structure Distinct (kind : BlockKind) : Prop where
  closer : kind.closer ≠ kind.opener
  middle : ∀ keyword ∈ kind.middle, keyword ≠ kind.opener ∧ keyword ≠ kind.closer

/-- The number of closing tags less the number of opening ones. -/
def surplus (kind : BlockKind) (tags : List TagAt) : Int :=
  (tags.countP fun tag => tag.keyword = kind.closer) -
    (tags.countP fun tag => tag.keyword = kind.opener)

/-- A tag brings the surplus, so many levels deep, to one. -/
def Closes (kind : BlockKind) (depth : Int) (before : List TagAt) (tag : TagAt) : Prop :=
  kind.surplus (before ++ [tag]) = depth + 1

/-- A middle tag, so many levels deep, stands behind as many closing tags as opening ones. -/
def Divides (kind : BlockKind) (depth : Int) (before : List TagAt) (tag : TagAt) : Prop :=
  some tag.keyword = kind.middle ∧ kind.surplus before = depth

/-- The place of the first tag that divides a block whose tags are listed, if there is one. -/
def MiddleIs (kind : BlockKind) (depth : Int) (tags : List TagAt) : Option Span → Prop
  | none => ∀ before tag after, tags = before ++ tag :: after → ¬ kind.Divides depth before tag
  | some span => ∃ before tag after, IsFirst (kind.Divides depth) tags before tag after ∧
      span = ⟨tag.start, tag.stop⟩

variable {kind : BlockKind} {tag : TagAt} {tags : List TagAt} {depth : Int}

@[simp]
theorem surplus_nil (kind : BlockKind) : kind.surplus [] = 0 := rfl

theorem surplus_append (kind : BlockKind) (before after : List TagAt) :
    kind.surplus (before ++ after) = kind.surplus before + kind.surplus after := by
  simp only [surplus, List.countP_append]
  omega

theorem surplus_cons (kind : BlockKind) (tag : TagAt) (tags : List TagAt) :
    kind.surplus (tag :: tags) = kind.surplus [tag] + kind.surplus tags :=
  kind.surplus_append [tag] tags

/-- No tag raises the surplus by more than one. -/
theorem surplus_singleton_le (kind : BlockKind) (tag : TagAt) : kind.surplus [tag] ≤ 1 := by
  have most := List.countP_le_length (p := fun tag : TagAt => tag.keyword = kind.closer) (l := [tag])
  rw [List.length_singleton] at most
  simp only [surplus]
  omega

theorem Distinct.surplus_opener (distinct : kind.Distinct) (opens : tag.keyword = kind.opener) :
    kind.surplus [tag] = -1 := by
  simp [surplus, opens, distinct.closer.symm]

theorem Distinct.surplus_closer (distinct : kind.Distinct) (closes : tag.keyword = kind.closer) :
    kind.surplus [tag] = 1 := by
  simp [surplus, closes, distinct.closer]

theorem surplus_other (notOpener : tag.keyword ≠ kind.opener)
    (notCloser : tag.keyword ≠ kind.closer) : kind.surplus [tag] = 0 := by
  simp [surplus, notOpener, notCloser]

theorem Distinct.surplus_middle (distinct : kind.Distinct)
    (divides : some tag.keyword = kind.middle) : kind.surplus [tag] = 0 :=
  have other := distinct.middle _ divides.symm
  surplus_other other.1 other.2

theorem Distinct.not_divides (distinct : kind.Distinct) (tilts : kind.surplus [tag] ≠ 0) :
    ¬ kind.Divides depth tags tag :=
  fun divides => tilts (distinct.surplus_middle divides.1)

/-- What closes behind a tag closes from the level that the tag leads to. -/
theorem closes_cons (kind : BlockKind) (depth : Int) (tag : TagAt) :
    (fun before => kind.Closes depth (tag :: before)) = kind.Closes (depth - kind.surplus [tag]) := by
  funext before other
  rw [Closes, Closes, List.cons_append, surplus_cons, eq_iff_iff]
  omega

theorem divides_cons (kind : BlockKind) (depth : Int) (tag : TagAt) :
    (fun before => kind.Divides depth (tag :: before)) =
      kind.Divides (depth - kind.surplus [tag]) := by
  funext before other
  rw [Divides, Divides, surplus_cons, eq_iff_iff]
  exact and_congr_right fun _ => by omega

theorem middleIs_nil {middle : Option Span} : kind.MiddleIs depth [] middle ↔ middle = none := by
  cases middle with
  | none => simp [MiddleIs]
  | some span => simp [MiddleIs, not_isFirst_nil]

theorem middleIs_cons_here (divides : kind.Divides depth [] tag) {middle : Option Span} :
    kind.MiddleIs depth (tag :: tags) middle ↔ middle = some ⟨tag.start, tag.stop⟩ := by
  cases middle with
  | none =>
    simp only [MiddleIs, reduceCtorEq, iff_false]
    exact fun none => none [] tag tags rfl divides
  | some span =>
    simp only [MiddleIs, isFirst_cons_here divides, Option.some.injEq]
    constructor
    · rintro ⟨_, _, _, ⟨-, rfl, -⟩, rfl⟩
      rfl
    · rintro rfl
      exact ⟨[], tag, tags, ⟨rfl, rfl, rfl⟩, rfl⟩

theorem middleIs_cons_later (notHere : ¬ kind.Divides depth [] tag) {middle : Option Span} :
    kind.MiddleIs depth (tag :: tags) middle ↔
      kind.MiddleIs (depth - kind.surplus [tag]) tags middle := by
  cases middle with
  | none =>
    simp only [MiddleIs, ← divides_cons]
    constructor
    · rintro none before other after rfl
      exact none (tag :: before) other after rfl
    · rintro none (_ | ⟨first, before⟩) other after split
      · obtain ⟨rfl, -⟩ := List.cons.inj split
        exact notHere
      · obtain ⟨rfl, same⟩ := List.cons.inj split
        exact none before other after same
  | some span =>
    simp only [MiddleIs, isFirst_cons_later notHere, divides_cons]
    constructor
    · rintro ⟨_, other, after, ⟨before, rfl, isFirst⟩, rfl⟩
      exact ⟨before, other, after, isFirst, rfl⟩
    · rintro ⟨before, other, after, isFirst, rfl⟩
      exact ⟨tag :: before, other, after, ⟨before, rfl, isFirst⟩, rfl⟩

theorem exists_middleIs (kind : BlockKind) (depth : Int) (tags : List TagAt) :
    ∃ middle, kind.MiddleIs depth tags middle := by
  by_cases divided : ∃ before tag after, tags = before ++ tag :: after ∧ kind.Divides depth before tag
  · obtain ⟨before, tag, after, split, here⟩ := divided
    obtain ⟨before, tag, after, isFirst⟩ := exists_isFirst split here
    exact ⟨some ⟨tag.start, tag.stop⟩, before, tag, after, isFirst, rfl⟩
  · exact ⟨none, fun before tag after split here => divided ⟨before, tag, after, split, here⟩⟩

/-! ## Balanced lists -/

/-- The surplus of a list starts and ends at zero and never rises above it. -/
structure Balanced (kind : BlockKind) (tags : List TagAt) : Prop where
  level : kind.surplus tags = 0
  below : ∀ before after, tags = before ++ after → kind.surplus before ≤ 0

/-- The surplus does not come above zero without being one at some tag. -/
theorem exists_closes_of_surplus_pos {tags : List TagAt} (positive : 0 < kind.surplus tags) :
    ∃ before tag after, tags = before ++ tag :: after ∧ kind.Closes 0 before tag := by
  induction tags using List.reverseRecOn with
  | nil => simp at positive
  | append_singleton tags last ih =>
    by_cases already : 0 < kind.surplus tags
    · obtain ⟨before, tag, after, rfl, closes⟩ := ih already
      exact ⟨before, tag, after ++ [last], by simp, closes⟩
    · have step := kind.surplus_singleton_le last
      refine ⟨tags, last, [], rfl, ?_⟩
      rw [Closes]
      rw [surplus_append] at positive ⊢
      omega

/-- The tags before the end of a block are balanced. -/
theorem balanced_of_isFirst {before after : List TagAt}
    (isFirst : IsFirst (kind.Closes 0) tags before tag after) : kind.Balanced before := by
  have below : ∀ first rest, before = first ++ rest → kind.surplus first ≤ 0 := by
    rintro first rest rfl
    by_contra positive
    obtain ⟨earlier, other, later, rfl, closes⟩ :=
      exists_closes_of_surplus_pos (not_le.mp positive)
    exact isFirst.earlier earlier other (later ++ rest) (by simp) closes
  refine ⟨?_, below⟩
  have whole := below before [] (List.append_nil before).symm
  have step := kind.surplus_singleton_le tag
  have one := isFirst.here
  rw [Closes, surplus_append] at one
  omega

/-- A tag that divides a block leaves balanced lists on both sides. -/
theorem Balanced.divide {before after : List TagAt} (distinct : kind.Distinct)
    (balanced : kind.Balanced (before ++ tag :: after)) (divides : kind.Divides 0 before tag) :
    kind.Balanced before ∧ kind.Balanced after := by
  obtain ⟨level, below⟩ := balanced
  have neutral := distinct.surplus_middle divides.1
  have start := divides.2
  rw [surplus_append, surplus_cons, neutral, start] at level
  constructor
  · refine ⟨start, ?_⟩
    rintro first rest rfl
    exact below first (rest ++ tag :: after) (by simp)
  · refine ⟨by omega, ?_⟩
    rintro first rest rfl
    have bound := below (before ++ tag :: first) rest (by simp)
    rw [surplus_append, surplus_cons, neutral, start] at bound
    omega

/-- Every block that is opened in a balanced list ends in it. -/
theorem Balanced.exists_isFirst_closes {before after : List TagAt} (distinct : kind.Distinct)
    (balanced : kind.Balanced (before ++ tag :: after)) (opens : tag.keyword = kind.opener) :
    ∃ first closing rest, IsFirst (kind.Closes 0) after first closing rest := by
  have level := balanced.level
  have below := balanced.below before (tag :: after) rfl
  rw [surplus_append, surplus_cons, distinct.surplus_opener opens] at level
  have positive : 0 < kind.surplus after := by omega
  obtain ⟨first, closing, rest, split, closes⟩ := exists_closes_of_surplus_pos positive
  exact exists_isFirst split closes

end BlockKind

namespace BlockAt

variable {text : List Char} {kind : BlockKind} {limit cursor : Nat}

/-! ## The search in a list of tags -/

/-- The block that the listed tags end, when so many blocks of its kind have been opened before them
and not closed and a middle tag may have been met. -/
def ofTags (kind : BlockKind) (depth : Nat) (met : Option Span) : List TagAt → Option BlockAt
  | [] => none
  | tag :: tags =>
    if tag.keyword = kind.opener then
      ofTags kind (depth + 1) met tags
    else if tag.keyword = kind.closer then
      match depth with
      | 0 => some ⟨met, tag.start, tag.stop⟩
      | outer + 1 => ofTags kind outer met tags
    else if depth = 0 ∧ met = none ∧ some tag.keyword = kind.middle then
      ofTags kind depth (some ⟨tag.start, tag.stop⟩) tags
    else
      ofTags kind depth met tags

/-- The end of a block is found by listing the tags and then counting them. -/
theorem find_eq_ofTags (range : IsSlice text cursor limit) (depth : Nat) (met : Option Span) :
    find text kind limit depth met cursor =
      some (ofTags kind depth met (tagsAt text limit cursor)) := by
  fun_induction tagsAt text limit cursor generalizing depth met with
  | case1 cursor tag next shorter ih =>
    have ih := ih (TagAt.advances_of_nextTagAt next).after
    rw [find_of_nextTagAt next, ofTags.eq_def]
    simp only [ih]
    cases depth <;> split_ifs <;> rfl
  | case2 cursor missing =>
    obtain ⟨found, next⟩ := exists_nextTagAt range
    cases found with
    | none => exact find_of_no_tag next
    | some tag => exact absurd next (missing tag)

/-- The middle tag that a search records in a list of tags, given the one that it has met. -/
def Records (kind : BlockKind) (depth : Int) (met : Option Span) (tags : List TagAt)
    (recorded : Option Span) : Prop :=
  match met with
  | none => kind.MiddleIs depth tags recorded
  | some span => recorded = some span

/-- The first tag that closes a block ends it. -/
def EndsIn (kind : BlockKind) (depth : Int) (met : Option Span) (tags : List TagAt)
    (block : BlockAt) : Prop :=
  ∃ before tag after, IsFirst (kind.Closes depth) tags before tag after ∧
    Records kind depth met before block.middle ∧ block.closer = tag.start ∧ block.stop = tag.stop

section EndsIn

variable {depth : Int} {met : Option Span} {tag : TagAt} {tags : List TagAt} {block : BlockAt}

theorem records_nil {recorded : Option Span} :
    Records kind depth met [] recorded ↔ recorded = met := by
  cases met with
  | none => exact BlockKind.middleIs_nil
  | some span => rfl

theorem records_cons_here (divides : kind.Divides depth [] tag) {level : Int}
    {recorded : Option Span} :
    Records kind depth none (tag :: tags) recorded ↔
      Records kind level (some ⟨tag.start, tag.stop⟩) tags recorded :=
  BlockKind.middleIs_cons_here divides

theorem records_cons_later (notHere : met = none → ¬ kind.Divides depth [] tag) {level : Int}
    (leads : level = depth - kind.surplus [tag]) {recorded : Option Span} :
    Records kind depth met (tag :: tags) recorded ↔ Records kind level met tags recorded := by
  cases met with
  | none => exact leads ▸ BlockKind.middleIs_cons_later (notHere rfl)
  | some span => rfl

theorem endsIn_cons_here (closes : kind.Closes depth [] tag) :
    EndsIn kind depth met (tag :: tags) block ↔
      Records kind depth met [] block.middle ∧ block.closer = tag.start ∧
        block.stop = tag.stop := by
  simp only [EndsIn, isFirst_cons_here closes]
  constructor
  · rintro ⟨_, _, _, ⟨rfl, rfl, rfl⟩, ends⟩
    exact ends
  · intro ends
    exact ⟨[], tag, tags, ⟨rfl, rfl, rfl⟩, ends⟩

theorem endsIn_cons_later {met' : Option Span} {level : Int}
    (notHere : kind.surplus [tag] ≠ depth + 1) (leads : level = depth - kind.surplus [tag])
    (records : ∀ tags recorded, Records kind depth met (tag :: tags) recorded ↔
      Records kind level met' tags recorded) :
    EndsIn kind depth met (tag :: tags) block ↔ EndsIn kind level met' tags block := by
  have notFirst : ¬ kind.Closes depth [] tag := notHere
  simp only [EndsIn, isFirst_cons_later notFirst, BlockKind.closes_cons, ← leads]
  constructor
  · rintro ⟨_, closing, after, ⟨before, rfl, isFirst⟩, recorded, places⟩
    exact ⟨before, closing, after, isFirst, (records before _).mp recorded, places⟩
  · rintro ⟨before, closing, after, isFirst, recorded, places⟩
    exact ⟨tag :: before, closing, after, ⟨before, rfl, isFirst⟩, (records before _).mpr recorded,
      places⟩

end EndsIn

/-- **The search by counting.**  In a list of tags the search finds the block that the first closing
tag ends. -/
theorem ofTags_eq_some_iff (distinct : kind.Distinct) {depth : Nat} {met : Option Span}
    {tags : List TagAt} {block : BlockAt} :
    ofTags kind depth met tags = some block ↔ EndsIn kind depth met tags block := by
  -- The rest of the list is searched from the level that the surplus of the tag leads to.
  fun_induction ofTags kind depth met tags with
  | case1 depth met => simp [EndsIn, not_isFirst_nil]
  | case2 depth met tag tags opens ih =>
    have step := distinct.surplus_opener opens
    have leads : ((depth + 1 : Nat) : Int) = depth - kind.surplus [tag] := by omega
    have undivided : ¬ kind.Divides depth [] tag := distinct.not_divides (by omega)
    rw [ih, endsIn_cons_later (by omega) leads fun _ _ =>
      records_cons_later (fun _ => undivided) leads]
  | case3 met tag tags opens closes =>
    have ends : kind.Closes (0 : Nat) [] tag := distinct.surplus_closer closes
    rw [Option.some.injEq, endsIn_cons_here ends, records_nil]
    constructor
    · rintro rfl
      exact ⟨rfl, rfl, rfl⟩
    · obtain ⟨middle, closer, stop⟩ := block
      rintro ⟨rfl, rfl, rfl⟩
      rfl
  | case4 met tag tags opens closes outer ih =>
    have step := distinct.surplus_closer closes
    have leads : (outer : Int) = (outer + 1 : Nat) - kind.surplus [tag] := by omega
    have undivided : ¬ kind.Divides (outer + 1 : Nat) [] tag := distinct.not_divides (by omega)
    rw [ih, endsIn_cons_later (by omega) leads fun _ _ =>
      records_cons_later (fun _ => undivided) leads]
  | case5 depth met tag tags opens closes divides ih =>
    obtain ⟨rfl, rfl, middle⟩ := divides
    have step := BlockKind.surplus_other opens closes
    have leads : ((0 : Nat) : Int) = (0 : Nat) - kind.surplus [tag] := by omega
    rw [ih, endsIn_cons_later (by omega) leads fun _ _ => records_cons_here ⟨middle, rfl⟩]
  | case6 depth met tag tags opens closes divides ih =>
    have step := BlockKind.surplus_other opens closes
    have leads : (depth : Int) = depth - kind.surplus [tag] := by omega
    have undivided (fresh : met = none) : ¬ kind.Divides depth [] tag := fun here =>
      divides ⟨Int.natCast_eq_zero.mp here.2.symm, fresh, here.1⟩
    rw [ih, endsIn_cons_later (by omega) leads fun _ _ => records_cons_later undivided leads]

/-! ## The tags in a part of a block -/

/-- The parts of a block that starts at an offset. -/
def parts (block : BlockAt) (start : Nat) : List Span :=
  match block.middle with
  | none => [⟨start, block.closer⟩]
  | some middle => [⟨start, middle.start⟩, ⟨middle.stop, block.closer⟩]

/-- The tags listed in a part of a block are balanced, and a listed tag comes right behind them. -/
theorem exists_tags_of_mem_parts (distinct : kind.Distinct) {block : BlockAt}
    (ends : EndsIn kind 0 none (tagsAt text limit cursor) block) {part : Span}
    (isPart : part ∈ block.parts cursor) :
    ∃ before inside next after, tagsAt text limit cursor = before ++ inside ++ next :: after ∧
      kind.Balanced inside ∧ next.start = part.stop ∧ ∀ tag ∈ before, tag.start < part.start := by
  obtain ⟨inside, closing, after, isFirst, middle, closer, -⟩ := ends
  have balanced := BlockKind.balanced_of_isFirst isFirst
  unfold parts at isPart
  cases divided : block.middle with
  | none =>
    simp only [divided, List.mem_singleton] at isPart
    subst isPart
    exact ⟨[], inside, closing, after, isFirst.split, balanced, closer.symm, by simp⟩
  | some span =>
    rw [divided] at middle isPart
    obtain ⟨before, tag, behind, divides, rfl⟩ := middle
    obtain ⟨rfl, here, -⟩ := divides
    obtain ⟨first, second⟩ := balanced.divide distinct here
    have split := isFirst.split
    rw [List.append_assoc, List.cons_append] at split
    simp only [List.mem_cons, List.not_mem_nil, or_false] at isPart
    rcases isPart with rfl | rfl
    · exact ⟨[], before, tag, _, split, first, rfl, by simp⟩
    · refine ⟨before ++ [tag], behind, closing, after, by simp [split], second, closer.symm, ?_⟩
      have listed : tag ∈ tagsAt text limit cursor := by simp [split]
      have here := start_lt_stop_of_mem_tagsAt listed
      intro other member
      rcases List.mem_append.mp member with earlier | last
      · exact (start_lt_of_mem_before split earlier).trans here
      · exact List.mem_singleton.mp last ▸ here

/-- A block that is opened in a part of a block ends in the same part, whether or not the search for
its end may go beyond it. -/
theorem find_of_mem_parts (distinct : kind.Distinct) {block : BlockAt}
    (ends : EndsIn kind 0 none (tagsAt text limit cursor) block) {part : Span}
    (isPart : part ∈ block.parts cursor) {tag : TagAt} (listed : tag ∈ tagsAt text limit cursor)
    (opens : tag.keyword = kind.opener) (starts : part.start ≤ tag.start)
    (within : tag.start < part.stop) :
    ∃ inner, find text kind part.stop 0 none tag.stop = some (some inner) ∧
      inner.stop ≤ part.stop ∧ find text kind limit 0 none tag.stop = some (some inner) := by
  obtain ⟨before, inside, next, after, split, balanced, stop, earlier⟩ :=
    exists_tags_of_mem_parts distinct ends isPart
  have here : tag ∈ inside := by
    have upTo := mem_before_of_start_lt split listed (stop ▸ within)
    rcases List.mem_append.mp upTo with out | here
    · exact absurd (earlier tag out) (not_lt.mpr starts)
    · exact here
  obtain ⟨first, rest, rfl⟩ := List.append_of_mem here
  have split : tagsAt text limit cursor = (before ++ first) ++ tag :: (rest ++ next :: after) := by
    simp [split]
  -- The tags behind the opening one, up to the limit and up to the end of the part.
  have toLimit := tagsAt_stop split
  have toPart := stop ▸ tagsAt_start toLimit
  have range := (TagAt.advances_of_mem_tagsAt listed).after
  have inPart : IsSlice text tag.stop part.stop := by
    have member : next ∈ tagsAt text limit tag.stop := by simp [toLimit]
    exact stop ▸ (TagAt.advances_of_mem_tagsAt member).before
  obtain ⟨between, closing, behind, isFirst⟩ := balanced.exists_isFirst_closes distinct opens
  obtain ⟨middle, recorded⟩ := kind.exists_middleIs 0 between
  refine ⟨⟨middle, closing.start, closing.stop⟩, ?_, ?_, ?_⟩
  · rw [find_eq_ofTags inPart, toPart, Option.some.injEq]
    exact (ofTags_eq_some_iff distinct).mpr ⟨between, closing, behind, isFirst, recorded, rfl, rfl⟩
  · have member : closing ∈ tagsAt text part.stop tag.stop := by simp [toPart, isFirst.split]
    exact (TagAt.advances_of_mem_tagsAt member).after.ordered
  · rw [find_eq_ofTags range, toLimit, Option.some.injEq]
    exact (ofTags_eq_some_iff distinct).mpr
      ⟨between, closing, _, isFirst.append_right _, recorded, rfl, rfl⟩

/-- **Matching by counting.**  In a range of a text the search finds a block exactly if some listed
tag brings the surplus to one.  The block ends at the first such tag, and the first middle tag
before it that stands behind a surplus of zero divides it.  Every block of the same kind that is
opened in a part of it ends in that part, also when the search for its end stops with the part.
The block is the one that `closeBlock` finds in the piece that stands in the range. -/
theorem find_by_counting (range : IsSlice text cursor limit) (distinct : kind.Distinct) :
    ∃ found, find text kind limit 0 none cursor = some found ∧
      (found.isSome ↔ ∃ before tag after,
        IsFirst (kind.Closes 0) (tagsAt text limit cursor) before tag after) ∧
      (∀ block, found = some block ↔ ∃ before tag after,
        IsFirst (kind.Closes 0) (tagsAt text limit cursor) before tag after ∧
          kind.MiddleIs 0 before block.middle ∧
          block.closer = tag.start ∧ block.stop = tag.stop) ∧
      (∀ block ∈ found, ∀ part ∈ block.parts cursor, ∀ tag ∈ tagsAt text limit cursor,
        tag.keyword = kind.opener → part.start ≤ tag.start → tag.start < part.stop →
          ∃ inner, find text kind part.stop 0 none tag.stop = some (some inner) ∧
            inner.stop ≤ part.stop ∧
            find text kind limit 0 none tag.stop = some (some inner)) ∧
      ∀ piece, Between text cursor limit piece →
        Option.Rel (Stands text cursor limit) found (closeBlock kind 0 piece) := by
  have counted (block : BlockAt) :
      ofTags kind 0 none (tagsAt text limit cursor) = some block ↔
        EndsIn kind 0 none (tagsAt text limit cursor) block := ofTags_eq_some_iff distinct
  have searched : find text kind limit 0 none cursor =
      some (ofTags kind 0 none (tagsAt text limit cursor)) := find_eq_ofTags range 0 none
  refine ⟨_, searched, ?_, counted, ?_, ?_⟩
  · rw [Option.isSome_iff_exists]
    constructor
    · rintro ⟨block, found⟩
      obtain ⟨before, tag, after, isFirst, -⟩ := (counted block).mp found
      exact ⟨before, tag, after, isFirst⟩
    · rintro ⟨before, tag, after, isFirst⟩
      obtain ⟨middle, recorded⟩ := kind.exists_middleIs 0 before
      exact ⟨⟨middle, tag.start, tag.stop⟩,
        (counted _).mpr ⟨before, tag, after, isFirst, recorded, rfl, rfl⟩⟩
  · intro block found part isPart tag listed opens starts within
    exact find_of_mem_parts distinct ((counted block).mp found) isPart listed opens starts within
  · intro piece here
    obtain ⟨found, searched', agrees⟩ := find_of_between kind 0 here
    rw [searched, Option.some.injEq] at searched'
    exact searched' ▸ agrees

theorem conditionBlock_distinct : conditionBlock.Distinct where
  closer := by decide
  middle := by decide

/-- A condition with a condition in each of its parts: the inner ones end in their parts, and the
middle tag of the first does not divide the outer one. -/
theorem find_by_counting_nested :
    let text := ["if", "else", "endif", "else", "if", "endif", "endif"].flatMap fun word =>
      tagText word.toList
    find text conditionBlock 55 0 none 0 = some (some ⟨some ⟨23, 31⟩, 46, 55⟩) ∧
      (∃ inner, find text conditionBlock 23 0 none 6 = some (some inner) ∧ inner.stop ≤ 23 ∧
        find text conditionBlock 55 0 none 6 = some (some inner)) ∧
      ∃ inner, find text conditionBlock 46 0 none 37 = some (some inner) ∧ inner.stop ≤ 46 ∧
        find text conditionBlock 55 0 none 37 = some (some inner) := by
  intro text
  have range : IsSlice text 0 55 := (Between.whole text).isSlice
  obtain ⟨found, searched, -, -, inside, -⟩ := find_by_counting range conditionBlock_distinct
  have outer : find text conditionBlock 55 0 none 0 = some (some ⟨some ⟨23, 31⟩, 46, 55⟩) := by
    decide +kernel
  obtain rfl := Option.some.inj (searched.symm.trans outer)
  have first : (⟨0, .condition, 4, 4⟩ : TagAt) ∈ tagsAt text 55 0 := by decide +kernel
  have second : (⟨31, .condition, 35, 35⟩ : TagAt) ∈ tagsAt text 55 0 := by decide +kernel
  exact ⟨outer, inside _ rfl ⟨0, 23⟩ (by decide) _ first rfl (by decide) (by decide),
    inside _ rfl ⟨31, 46⟩ (by decide) _ second rfl (by decide) (by decide)⟩

end BlockAt

end Stencil.Template
