import Stencil.Proofs.Text.Cut
import Stencil.Template.Parse

/-!
# The steps of reading a template

One equation for each way in which reading can go on: a variable, a loop, a
choice, a directive, a plain character, and the six malformed parts.  Later
modules read templates by these equations and do not open `parse` again.

Plain text is read character by character (`parse_append_of_plain`): text without
an opening mark, and not ending in the character that both opening marks start
with, is read for itself, whatever follows.
-/

set_option autoImplicit false

namespace Stencil.Template

open Text (Mark cutAt)

@[simp]
theorem parse_nil : parse [] = [] := by
  rw [parse]

/-! ## Variables -/

theorem parse_variable {text path rest : List Char}
    (cut : cutAt closeVariable text = some (path, rest)) :
    parse (openVariable.text ++ text) = .variable (.ofList path) :: parse rest := by
  change parse ('\x7b' :: '\x7b' :: text) = _
  rw [parse]
  split
  · next missing => simp [cut] at missing
  · next path' rest' cut' =>
    obtain ⟨rfl, rfl⟩ : path = path' ∧ rest = rest' := by simpa [cut] using cut'
    rfl

theorem parse_open_variable {text : List Char} (missing : cutAt closeVariable text = none) :
    parse (openVariable.text ++ text) = [.fault .openVariable (openVariable.text ++ text)] := by
  change parse ('\x7b' :: '\x7b' :: text) = _
  rw [parse]
  split
  · rfl
  · next cut => simp [missing] at cut

/-! ## Tags -/

theorem parse_open_tag {text : List Char} (missing : Tag.read text = none) :
    parse (openTag.text ++ text) = [.fault .openTag (openTag.text ++ text)] := by
  change parse ('\x7b' :: '%' :: text) = _
  rw [parse]
  split
  · rfl
  · next read => simp [missing] at read

section Tags

variable {text rest : List Char} {tag : Tag} (read : Tag.read text = some (tag, rest))
include read

/-- A closed tag, read by its keyword. -/
theorem parse_tag :
    parse (openTag.text ++ text) =
      match tag.keyword with
      | .loop =>
        match LoopHeader.read tag.header with
        | .error error => [.fault (.loopHeader tag.header error) (openTag.text ++ text)]
        | .ok header =>
          match closeBlock loopBlock 0 rest with
          | none => [.fault .openLoop (openTag.text ++ text)]
          | some block => .loop header (parse block.body) :: parse block.rest
      | .condition =>
        match readCondition tag.header with
        | .error error => [.fault (.conditionHeader tag.header error) (openTag.text ++ text)]
        | .ok condition =>
          match closeBlock conditionBlock 0 rest with
          | none => [.fault .openCondition (openTag.text ++ text)]
          | some block =>
            .choice condition (parse block.body) (parse (block.alternative.getD []))
              :: parse block.rest
      | keyword => .directive keyword.word :: parse (tag.header ++ closeTag.text ++ rest) := by
  change parse ('\x7b' :: '%' :: text) = _
  rw [parse]
  split
  · next missing => simp [read] at missing
  · next tag' rest' read' =>
    obtain ⟨rfl, rfl⟩ : tag = tag' ∧ rest = rest' := by simpa [read] using read'
    cases tag.keyword with
    | loop =>
      cases LoopHeader.read tag.header with
      | error error => rfl
      | ok header =>
        dsimp only
        split
        · next missing => rw [missing]
        · next block closed => rw [closed]
    | condition =>
      cases readCondition tag.header with
      | error error => rfl
      | ok condition =>
        dsimp only
        split
        · next missing => rw [missing]
        · next block closed => rw [closed]
    | endLoop => rfl
    | otherwise => rfl
    | endCondition => rfl
    | unknown word => rfl

theorem parse_loop {header : LoopHeader} {block : Block} (keyword : tag.keyword = .loop)
    (headed : LoopHeader.read tag.header = .ok header)
    (closed : closeBlock loopBlock 0 rest = some block) :
    parse (openTag.text ++ text) = .loop header (parse block.body) :: parse block.rest := by
  rw [parse_tag read, keyword]
  simp only [headed, closed]

theorem parse_choice {condition : Condition} {block : Block} (keyword : tag.keyword = .condition)
    (headed : readCondition tag.header = .ok condition)
    (closed : closeBlock conditionBlock 0 rest = some block) :
    parse (openTag.text ++ text) =
      .choice condition (parse block.body) (parse (block.alternative.getD []))
        :: parse block.rest := by
  rw [parse_tag read, keyword]
  simp only [headed, closed]

/-- A tag that opens no block is read up to the end of its keyword. -/
theorem parse_unopening (noLoop : tag.keyword ≠ .loop) (noCondition : tag.keyword ≠ .condition) :
    parse (openTag.text ++ text) =
      .directive tag.keyword.word :: parse (tag.header ++ closeTag.text ++ rest) := by
  rw [parse_tag read]
  split
  · next keyword => exact absurd keyword noLoop
  · next keyword => exact absurd keyword noCondition
  · rfl

theorem parse_directive {word : String} (keyword : tag.keyword = .unknown word) :
    parse (openTag.text ++ text) =
      .directive word :: parse (tag.header ++ closeTag.text ++ rest) := by
  rw [parse_unopening read (by simp [keyword]) (by simp [keyword]), keyword]
  rfl

theorem parse_unreadable_loop {error : HeaderError} (keyword : tag.keyword = .loop)
    (headed : LoopHeader.read tag.header = .error error) :
    parse (openTag.text ++ text) =
      [.fault (.loopHeader tag.header error) (openTag.text ++ text)] := by
  rw [parse_tag read, keyword]
  simp only [headed]

theorem parse_open_loop {header : LoopHeader} (keyword : tag.keyword = .loop)
    (headed : LoopHeader.read tag.header = .ok header)
    (missing : closeBlock loopBlock 0 rest = none) :
    parse (openTag.text ++ text) = [.fault .openLoop (openTag.text ++ text)] := by
  rw [parse_tag read, keyword]
  simp only [headed, missing]

theorem parse_unreadable_condition {error : HeaderError} (keyword : tag.keyword = .condition)
    (headed : readCondition tag.header = .error error) :
    parse (openTag.text ++ text) =
      [.fault (.conditionHeader tag.header error) (openTag.text ++ text)] := by
  rw [parse_tag read, keyword]
  simp only [headed]

theorem parse_open_condition {condition : Condition} (keyword : tag.keyword = .condition)
    (headed : readCondition tag.header = .ok condition)
    (missing : closeBlock conditionBlock 0 rest = none) :
    parse (openTag.text ++ text) = [.fault .openCondition (openTag.text ++ text)] := by
  rw [parse_tag read, keyword]
  simp only [headed, missing]

end Tags

/-! ## Plain text -/

/-- A character that no opening mark starts at is plain. -/
theorem parse_character {character : Char} {text : List Char}
    (noVariable : ¬ openVariable.text <+: character :: text)
    (noTag : ¬ openTag.text <+: character :: text) :
    parse (character :: text) = .text character :: parse text := by
  rw [parse]
  · rintro rest rfl rfl
    exact noVariable ⟨rest, rfl⟩
  · rintro rest rfl rfl
    exact noTag ⟨rest, rfl⟩

/-- Text without an opening mark that does not end with the start of one is read for itself, whatever
follows. -/
theorem parse_append_of_plain {plain : List Char} (noVariable : ¬ openVariable.OccursIn plain)
    (noTag : ¬ openTag.OccursIn plain) (ends : plain.getLast? ≠ some '\x7b')
    (rest : List Char) : parse (plain ++ rest) = plain.map Node.text ++ parse rest := by
  induction plain with
  | nil => rfl
  | cons first tail ih =>
    have here (mark : Mark) (opening : mark.first = '\x7b')
        (free : ¬ mark.OccursIn (first :: tail)) :
        ¬ mark.text <+: first :: (tail ++ rest) := by
      cases tail with
      | nil => simp_all [Mark.text, eq_comm]
      | cons second tail =>
        rw [Mark.occursIn_cons_cons, not_or] at free
        simpa [Mark.text, eq_comm] using free.1
    have after (mark : Mark) (free : ¬ mark.OccursIn (first :: tail)) : ¬ mark.OccursIn tail :=
      fun occurs => free (occurs.trans (List.suffix_cons first tail).isInfix)
    have endsTail : tail.getLast? ≠ some '\x7b' := by
      cases tail with
      | nil => simp
      | cons second tail => simpa using ends
    rw [List.cons_append,
      parse_character (here openVariable rfl noVariable) (here openTag rfl noTag),
      ih (after _ noVariable) (after _ noTag) endsTail]
    rfl

/-- Text without an opening mark that nothing follows is read for itself. -/
theorem parse_of_plain {plain : List Char} (noVariable : ¬ openVariable.OccursIn plain)
    (noTag : ¬ openTag.OccursIn plain) : parse plain = plain.map Node.text := by
  induction plain with
  | nil => exact parse_nil
  | cons first tail ih =>
    have after (mark : Mark) (free : ¬ mark.OccursIn (first :: tail)) : ¬ mark.OccursIn tail :=
      fun occurs => free (occurs.trans (List.suffix_cons first tail).isInfix)
    rw [parse_character (fun starts => noVariable starts.isInfix) fun starts =>
      noTag starts.isInfix, ih (after _ noVariable) (after _ noTag)]
    rfl

end Stencil.Template
