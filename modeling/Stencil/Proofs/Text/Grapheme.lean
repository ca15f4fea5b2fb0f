import Mathlib.Data.List.Basic
import Mathlib.Data.List.Induction
import Stencil.Text.Grapheme

/-!
# Where clusters end

The division of a text keeps a small state and decides at each character whether it joins
the cluster before it.  The standard says the same without a state: each of its rules
looks at the next character and as far back as it needs, past a run of marks to the emoji
that takes a skin tone, or to the start of a run of regional indicators (`Joins`).

The state knows of the characters read exactly what the rules ask (`Reads.joins_iff`), so
that a text is divided at a place if and only if no rule joins what stands on either side
(`isBoundary_iff`).  Everything else about places is read off the rules: lines are not
divided inside their ends, no mark is separated from what it marks, and regional
indicators are taken in pairs from where the first of them starts a cluster.
-/

set_option autoImplicit false

namespace Stencil.Text

/-! ## Runs of regional indicators -/

/-- The number of regional indicators at the end. -/
def flagRun (classes : List GraphemeClass) : Nat :=
  (classes.reverse.takeWhile (· = .regional)).length

theorem flagRun_concat_regional (classes : List GraphemeClass) :
    flagRun (classes ++ [.regional]) = flagRun classes + 1 := by
  simp [flagRun]

theorem flagRun_concat_of_ne {next : GraphemeClass} (other : next ≠ .regional)
    (classes : List GraphemeClass) : flagRun (classes ++ [next]) = 0 := by
  simp [flagRun, other]

theorem flagRun_append_replicate (before : List GraphemeClass) (count : Nat) :
    flagRun (before ++ List.replicate count .regional) = flagRun before + count := by
  induction count with
  | zero => simp
  | succ count ih =>
    rw [List.replicate_succ', ← List.append_assoc, flagRun_concat_regional, ih, Nat.add_assoc]

theorem flagRun_of_fresh {before : List GraphemeClass} (fresh : before.getLast? ≠ some .regional) :
    flagRun before = 0 := by
  rcases List.eq_nil_or_concat' before with rfl | ⟨others, last, rfl⟩
  · rfl
  · exact flagRun_concat_of_ne (by simpa using fresh) others

/-! ## Marks behind an emoji -/

/-- The marks at the end, if any, stand behind an emoji that takes a skin tone. -/
def Toned (classes : List GraphemeClass) : Prop :=
  ∃ before emoji marks, emoji.takesTone = true ∧
    classes = before ++ emoji :: List.replicate marks .extend

theorem not_toned_nil : ¬ Toned [] := by
  rintro ⟨before, emoji, marks, -, whole⟩
  simp at whole

theorem toned_concat_iff {classes : List GraphemeClass} {next : GraphemeClass} :
    Toned (classes ++ [next]) ↔ next.takesTone = true ∨ (next = .extend ∧ Toned classes) := by
  constructor
  · rintro ⟨before, emoji, marks, takes, whole⟩
    cases marks with
    | zero =>
      obtain ⟨-, last⟩ := List.append_inj' whole rfl
      obtain rfl := (List.cons.inj last).1
      exact .inl takes
    | succ marks =>
      rw [List.replicate_succ', ← List.cons_append, ← List.append_assoc] at whole
      obtain ⟨inner, last⟩ := List.append_inj' whole rfl
      exact .inr ⟨(List.cons.inj last).1, before, emoji, marks, takes, inner⟩
  · rintro (takes | ⟨rfl, before, emoji, marks, takes, rfl⟩)
    · exact ⟨classes, next, 0, takes, rfl⟩
    · refine ⟨before, emoji, marks + 1, takes, ?_⟩
      rw [List.replicate_succ', ← List.cons_append, ← List.append_assoc]

/-! ## The rules -/

/-- The rules by which the next character joins the characters before it, given by their classes. -/
inductive Joins : List GraphemeClass → GraphemeClass → Prop
  /-- A line feed behind a carriage return. -/
  | newline (before : List GraphemeClass) : Joins (before ++ [.carriageReturn]) .lineFeed
  /-- What continues a syllable behind a leading consonant. -/
  | leading {next : GraphemeClass} (before : List GraphemeClass)
      (continues : next ∈ [.leading, .vowel, .openSyllable, .closedSyllable]) :
      Joins (before ++ [.leading]) next
  /-- What continues a syllable behind its vowel. -/
  | vowel {last next : GraphemeClass} (before : List GraphemeClass)
      (isOpen : last ∈ [.openSyllable, .vowel]) (continues : next ∈ [.vowel, .trailing]) :
      Joins (before ++ [last]) next
  /-- A trailing consonant behind another one. -/
  | trailing {last : GraphemeClass} (before : List GraphemeClass)
      (closed : last ∈ [.closedSyllable, .trailing]) : Joins (before ++ [last]) .trailing
  /-- A mark or a joiner behind anything but a control. -/
  | mark {last next : GraphemeClass} (before : List GraphemeClass) (solid : last.isolated = false)
      (marks : next ∈ [.extend, .joiner, .spacing]) : Joins (before ++ [last]) next
  /-- Anything but a control behind a sign that stands before what it belongs to. -/
  | prepended {next : GraphemeClass} (before : List GraphemeClass) (solid : next.isolated = false) :
      Joins (before ++ [.prepend]) next
  /-- A skin tone behind an emoji that takes one, with marks between them or without. -/
  | tone {before : List GraphemeClass} (toned : Toned before) : Joins before .modifier
  /-- An emoji that joins, behind a joiner. -/
  | joined {next : GraphemeClass} (before : List GraphemeClass)
      (joins : next ∈ [.joined, .joinedBase]) : Joins (before ++ [.joiner]) next
  /-- A regional indicator behind an odd number of them. -/
  | flag {before : List GraphemeClass} (odd : flagRun before % 2 = 1) : Joins before .regional

/-! ## What the state knows -/

/-- The state after reading characters of some classes. -/
inductive Reads : List GraphemeClass → GraphemeState → Prop
  | start (first : GraphemeClass) : Reads [first] (.start first)
  | advance {classes : List GraphemeClass} {state : GraphemeState} (next : GraphemeClass)
      (reads : Reads classes state) : Reads (classes ++ [next]) (state.advance next)

namespace Reads

variable {classes : List GraphemeClass} {state : GraphemeState} (reads : Reads classes state)
include reads

theorem getLast?_eq : classes.getLast? = some state.last := by
  cases reads with
  | start first => rfl
  | advance next reads => simp [GraphemeState.advance]

/-- The state knows whether an emoji that takes a skin tone stands before the marks at the end. -/
theorem toned_iff : state.toned = true ↔ Toned classes := by
  induction reads with
  | start first =>
    have single : Toned ([] ++ [first]) ↔ _ := toned_concat_iff
    rw [List.nil_append] at single
    simp [GraphemeState.start, single, not_toned_nil]
  | advance next reads ih => simp [GraphemeState.advance, toned_concat_iff, ih]

/-- The state knows whether the number of regional indicators at the end is odd. -/
theorem unpaired_iff : state.unpaired = true ↔ flagRun classes % 2 = 1 := by
  induction reads with
  | start first =>
    by_cases flag : first = .regional
    · simp [GraphemeState.start, flag, flagRun]
    · simp [GraphemeState.start, flag, flagRun]
  | @advance classes state next reads ih =>
    by_cases flag : next = .regional
    · subst flag
      rw [flagRun_concat_regional]
      by_cases again : state.last = .regional
      · have odd : state.unpaired = decide (flagRun classes % 2 = 1) := by simp [← ih]
        simp only [GraphemeState.advance, again, odd, decide_true, Bool.true_and, Bool.not_eq_true',
          decide_eq_false_iff_not]
        omega
      · -- a new run starts
        have none : flagRun classes = 0 := by
          refine flagRun_of_fresh fun ends => again ?_
          exact Option.some.inj (reads.getLast?_eq.symm.trans ends)
        simp [GraphemeState.advance, again, none]
    · simp [GraphemeState.advance, flag, flagRun_concat_of_ne flag]

end Reads

namespace Reads

variable {classes : List GraphemeClass} {state : GraphemeState} (reads : Reads classes state)
include reads

theorem joins_of_state {next : GraphemeClass} (joined : state.joins next = true) :
    Joins classes next := by
  obtain ⟨before, whole⟩ := List.getLast?_eq_some_iff.mp reads.getLast?_eq
  unfold GraphemeState.joins at joined
  generalize state.last = last at whole joined
  split at joined
  · exact whole ▸ .newline before
  · split at joined
    · cases joined
    · next solid =>
      rw [Bool.or_eq_true, not_or, Bool.not_eq_true, Bool.not_eq_true] at solid
      -- one case for each line of the table
      split at joined
      case h_1 | h_2 | h_3 | h_4 => exact whole ▸ .leading before (by decide)
      case h_5 | h_6 | h_7 | h_8 => exact whole ▸ .vowel before (by decide) (by decide)
      case h_9 | h_10 => exact whole ▸ .trailing before (by decide)
      case h_11 | h_12 | h_13 => exact whole ▸ .mark before solid.1 (by decide)
      case h_14 => exact whole ▸ .prepended before solid.2
      case h_15 | h_16 => exact .tone (whole ▸ toned_concat_iff.mpr (.inl rfl))
      case h_17 => exact .tone (reads.toned_iff.mp joined)
      case h_18 | h_19 => exact whole ▸ .joined before (by decide)
      case h_20 => exact .flag (reads.unpaired_iff.mp joined)
      case h_21 => cases joined

theorem state_of_joins {next : GraphemeClass} (joins : Joins classes next) :
    state.joins next = true := by
  have ends := reads.getLast?_eq
  have toned := reads.toned_iff
  have unpaired := reads.unpaired_iff
  obtain ⟨last, isToned, isUnpaired⟩ := state
  cases joins with
  | newline before =>
    obtain rfl : .carriageReturn = last := by simpa using ends
    rfl
  | leading before continues =>
    obtain rfl : .leading = last := by simpa using ends
    simp only [List.mem_cons, List.not_mem_nil, or_false] at continues
    rcases continues with rfl | rfl | rfl | rfl <;> rfl
  | @vowel final next before isOpen continues =>
    obtain rfl : final = last := by simpa using ends
    simp only [List.mem_cons, List.not_mem_nil, or_false] at isOpen continues
    rcases isOpen with rfl | rfl <;> rcases continues with rfl | rfl <;> rfl
  | @trailing final before closed =>
    obtain rfl : final = last := by simpa using ends
    simp only [List.mem_cons, List.not_mem_nil, or_false] at closed
    rcases closed with rfl | rfl <;> rfl
  | @mark final next before solid marks =>
    obtain rfl : final = last := by simpa using ends
    simp only [List.mem_cons, List.not_mem_nil, or_false] at marks
    rcases marks with rfl | rfl | rfl <;> cases final <;> cases solid <;> rfl
  | @prepended next before solid =>
    obtain rfl : .prepend = last := by simpa using ends
    cases next <;> cases solid <;> rfl
  | tone behind =>
    obtain ⟨before, rfl⟩ := List.getLast?_eq_some_iff.mp ends
    rcases toned_concat_iff.mp behind with takes | ⟨rfl, -⟩
    · cases last <;> cases takes <;> rfl
    · exact toned.mpr behind
  | @joined next before joins =>
    obtain rfl : .joiner = last := by simpa using ends
    simp only [List.mem_cons, List.not_mem_nil, or_false] at joins
    rcases joins with rfl | rfl <;> rfl
  | flag odd =>
    obtain ⟨before, rfl⟩ := List.getLast?_eq_some_iff.mp ends
    have flag : last = .regional := by
      by_contra other
      rw [flagRun_concat_of_ne other] at odd
      cases odd
    subst flag
    exact unpaired.mpr odd

/-- **The state joins a character exactly if a rule does.** -/
theorem joins_iff {next : GraphemeClass} : state.joins next = true ↔ Joins classes next :=
  ⟨reads.joins_of_state, reads.state_of_joins⟩

end Reads

/-! ## Places -/

/-- Some clusters from the start of a text make up its first part. -/
def IsBoundary (before after : List Char) : Prop :=
  ∃ clusters, clusters <+: graphemes (before ++ after) ∧ clusters.flatten = before

/-- The clusters from the start of a text that make up its first part are the first cluster and
others that make up what is left of the part. -/
theorem exists_prefix_cons_iff {character : Char} {same before : List Char}
    {others : List (List Char)} :
    (∃ clusters, clusters <+: (character :: same) :: others ∧
        clusters.flatten = character :: before) ↔
      ∃ clusters, clusters <+: others ∧ same ++ clusters.flatten = before := by
  constructor
  · rintro ⟨clusters, starts, whole⟩
    rcases List.prefix_cons_iff.mp starts with rfl | ⟨rest, rfl, inner⟩
    · cases whole
    · exact ⟨rest, inner, (List.cons.inj whole).2⟩
  · rintro ⟨clusters, starts, rfl⟩
    exact ⟨(character :: same) :: clusters, List.prefix_cons_iff.mpr (.inr ⟨clusters, rfl, starts⟩), rfl⟩

/-- The cluster being read, or one behind it, ends where no rule joins. -/
theorem Reads.exists_prefix_iff {classes : List GraphemeClass} {state : GraphemeState}
    (reads : Reads classes state) (before after : List Char) (next : Char) :
    (∃ clusters, clusters <+: (continueCluster state (before ++ next :: after)).2 ∧
        (continueCluster state (before ++ next :: after)).1 ++ clusters.flatten = before) ↔
      ¬ Joins (classes ++ before.map graphemeClass) (graphemeClass next) := by
  induction before generalizing classes state with
  | nil =>
    rw [List.map_nil, List.append_nil, ← reads.joins_iff, List.nil_append, continueCluster]
    by_cases joined : state.joins (graphemeClass next) = true
    · simp [joined]
    · simp only [joined, Bool.false_eq_true, not_false_iff, iff_true]
      exact ⟨[], List.nil_prefix, rfl⟩
  | cons character before ih =>
    have later := ih (reads.advance (graphemeClass character))
    rw [List.append_assoc, List.singleton_append] at later
    rw [List.map_cons, ← later, List.cons_append, continueCluster]
    by_cases joined : state.joins (graphemeClass character) = true
    · simp [joined]
    · simp only [joined, Bool.false_eq_true, if_false, List.nil_append]
      exact exists_prefix_cons_iff

theorem not_joins_nil (next : GraphemeClass) : ¬ Joins [] next := by
  intro joins
  generalize none : [] = classes at joins
  cases joins with
  | tone toned => exact not_toned_nil (none ▸ toned)
  | flag odd => cases none ▸ odd
  | newline | leading | vowel | trailing | mark | prepended | joined => simp at none

/-- **A text is divided where no rule joins.** -/
theorem isBoundary_iff {before after : List Char} {next : Char} :
    IsBoundary before (next :: after) ↔ ¬ Joins (before.map graphemeClass) (graphemeClass next) := by
  cases before with
  | nil => exact iff_of_true ⟨[], List.nil_prefix, rfl⟩ (not_joins_nil _)
  | cons first before =>
    rw [IsBoundary, List.cons_append, graphemes, exists_prefix_cons_iff]
    exact (Reads.start (graphemeClass first)).exists_prefix_iff before after next

/-- The end of a line of two characters is not divided. -/
theorem not_isBoundary_newline (before after : List Char) :
    ¬ IsBoundary (before ++ ['\r']) ('\n' :: after) := by
  rw [isBoundary_iff, not_not, List.map_append]
  exact .newline _

theorem GraphemeClass.isolated_eq_false_iff {kind : GraphemeClass} :
    kind.isolated = false ↔ kind ∉ [carriageReturn, lineFeed, control] := by
  cases kind <;> decide

/-- A mark is not separated from what it marks. -/
theorem not_isBoundary_mark {character mark : Char}
    (solid : graphemeClass character ∉ [.carriageReturn, .lineFeed, .control])
    (marks : graphemeClass mark ∈ [.extend, .joiner]) (before after : List Char) :
    ¬ IsBoundary (before ++ [character]) (mark :: after) := by
  have joins : graphemeClass mark ∈ [.extend, .joiner, .spacing] :=
    List.mem_append_left [GraphemeClass.spacing] marks
  rw [isBoundary_iff, not_not, List.map_append]
  exact .mark _ (GraphemeClass.isolated_eq_false_iff.mpr solid) joins

/-- Behind a regional indicator another one is joined if their number is odd, and by no other rule. -/
theorem joins_regional_iff {classes : List GraphemeClass}
    (ends : classes.getLast? = some .regional) :
    Joins classes .regional ↔ flagRun classes % 2 = 1 := by
  refine ⟨fun joins => ?_, .flag⟩
  generalize isRegional : GraphemeClass.regional = next at joins
  cases joins with
  | flag odd => exact odd
  | leading _ continues | vowel _ _ continues => simp [← isRegional] at continues
  | mark _ _ marks => simp [← isRegional] at marks
  | prepended | joined => simp at ends
  | newline | trailing | tone => cases isRegional

/-- Regional indicators are taken in pairs from where the first of them starts a cluster. -/
theorem isBoundary_flags_iff {before run after : List Char}
    (flags : ∀ character ∈ run, graphemeClass character = .regional)
    (starts : IsBoundary before (run ++ after)) {place : Nat} (positive : 0 < place)
    (inside : place < run.length) :
    IsBoundary (before ++ run.take place) (run.drop place ++ after) ↔ place % 2 = 0 := by
  -- in front of the run stands an even number of regional indicators, or none would start a cluster
  have even : flagRun (before.map graphemeClass) % 2 = 0 := by
    obtain ⟨first, others, rfl⟩ := List.exists_cons_of_length_pos (Nat.lt_trans positive inside)
    rw [List.cons_append, isBoundary_iff, flags first List.mem_cons_self] at starts
    by_contra odd
    exact starts (.flag (by omega))
  have taken : (run.take place).map graphemeClass = List.replicate place .regional := by
    refine List.eq_replicate_iff.mpr ⟨by simp; omega, ?_⟩
    rintro _ member
    obtain ⟨character, here, rfl⟩ := List.mem_map.mp member
    exact flags character (List.mem_of_mem_take here)
  obtain ⟨next, others, rest⟩ : ∃ next others, run.drop place = next :: others :=
    List.exists_cons_of_length_pos (by rw [List.length_drop]; omega)
  have flag : graphemeClass next = .regional :=
    flags next (List.mem_of_mem_drop (rest ▸ List.mem_cons_self))
  have ends : (before.map graphemeClass ++ List.replicate place GraphemeClass.regional).getLast? =
      some .regional := by
    simp [List.getLast?_append, List.getLast?_replicate, Nat.ne_of_gt positive]
  rw [rest, List.cons_append, isBoundary_iff, List.map_append, taken, flag,
    joins_regional_iff ends, flagRun_append_replicate]
  omega

end Stencil.Text
