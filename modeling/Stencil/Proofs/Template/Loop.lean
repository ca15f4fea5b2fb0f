import Stencil.Proofs.Template.Condition

/-!
# The language of loops

The separators cut a text into words, the longest runs of characters that separate
nothing (`words`).  A header is read as a loop exactly if it has three words: a name, the
word `in`, and a path (`LoopHeader.read_iff_words`).

The reader does not look for words.  It takes as much of a name as there is, steps over
any separators, asks for `in`, and so on.  That this never ends in the middle of a word
has a reason at each of the three places: a name ends at a separator because no other
character that ends it can start `in`, `in` is read only with a separator or the end
behind it, and behind the path nothing but separators is left.
-/

set_option autoImplicit false

namespace Stencil.Template

/-! ## Words -/

/-- The longest runs of characters of a text that separate nothing, in order. -/
def words (text : List Char) : List (List Char) :=
  (text.splitOnP isSeparator).filter (· ≠ [])

/-- The texts that can be words. -/
def IsWord (text : List Char) : Prop :=
  text ≠ [] ∧ ∀ character ∈ text, isSeparator character = false

/-- A text that no word in front of it goes on with. -/
def EndsWord (rest : List Char) : Prop :=
  ∀ next ∈ rest.head?, isSeparator next = true

theorem IsName.isWord {name : List Char} (isName : IsName name) : IsWord name :=
  ⟨isName.1, fun character member => isSeparator_of_isNameChar (isName.2 character member)⟩

theorem IsPath.isWord {path : List Char} (isPath : IsPath path) : IsWord path := by
  induction isPath with
  | name isName => exact isName.isWord
  | @step name rest isName isPath ih =>
    refine ⟨by simp, fun character member => ?_⟩
    rcases List.mem_append.mp member with inName | behind
    · exact isName.isWord.2 character inName
    · rcases List.mem_cons.mp behind with rfl | inRest
      · decide
      · exact ih.2 character inRest

theorem Separates.endsWord {text : List Char} (separates : Separates text) : EndsWord text :=
  fun next first => separates next (List.mem_of_mem_head? first)

theorem isWord_in : IsWord ['i', 'n'] := by
  simp [IsWord, isSeparator]

/-- A separator ends the words before it and starts those behind it. -/
theorem words_append_separator (left : List Char) {separator : Char}
    (separates : isSeparator separator = true) (right : List Char) :
    words (left ++ separator :: right) = words left ++ words right := by
  rw [words, List.splitOnP_append_cons left right separates, List.filter_append, words, words]

theorem words_of_separates {text : List Char} (separates : Separates text) : words text = [] := by
  induction text with
  | nil => rfl
  | cons first rest ih =>
    have here : isSeparator first = true := separates first (List.mem_cons_self ..)
    have later := ih fun character member => separates character (List.mem_cons_of_mem _ member)
    exact (words_append_separator [] here rest).trans later

theorem words_skipSeparators (text : List Char) : words (skipSeparators text) = words text := by
  induction text with
  | nil => rfl
  | cons first rest ih =>
    by_cases here : isSeparator first = true
    · rw [skipSeparators, List.dropWhile_cons_of_pos here]
      exact ih.trans (words_append_separator [] here rest).symm
    · rw [skipSeparators, List.dropWhile_cons_of_neg here]

theorem words_of_isWord {word : List Char} (isWord : IsWord word) : words word = [word] := by
  rw [words, List.splitOnP_eq_singleton isWord.2]
  simp [isWord.1]

theorem words_append {word rest : List Char} (isWord : IsWord word) (ends : EndsWord rest) :
    words (word ++ rest) = word :: words rest := by
  cases rest with
  | nil => rw [List.append_nil, words_of_isWord isWord, words_of_separates (List.forall_mem_nil _)]
  | cons next rest =>
    have separates : isSeparator next = true := ends next rfl
    have behind : words (next :: rest) = words rest := words_append_separator [] separates rest
    rw [words_append_separator word separates, words_of_isWord isWord, behind]
    rfl

theorem solid_skipSeparators (text : List Char) :
    ∀ first ∈ (skipSeparators text).head?, isSeparator first = false := by
  intro first head
  have stops := List.head?_dropWhile_not isSeparator text
  rw [← skipSeparators, Option.mem_def.mp head] at stops
  simpa using stops

/-- Where a text does not end, a word starts behind the separators. -/
theorem exists_word {text : List Char} (goesOn : skipSeparators text ≠ []) :
    ∃ word rest, skipSeparators text = word ++ rest ∧ IsWord word ∧ EndsWord rest := by
  refine ⟨(skipSeparators text).takeWhile (!isSeparator ·),
    (skipSeparators text).dropWhile (!isSeparator ·), List.takeWhile_append_dropWhile.symm,
    ⟨?_, fun character member => by simpa using List.mem_takeWhile_imp member⟩, ?_⟩
  · have starts := solid_skipSeparators text
    obtain ⟨first, rest, skipped⟩ := List.exists_cons_of_ne_nil goesOn
    simp [skipped, starts first (by rw [skipped]; rfl)]
  · intro next first
    have stops := List.head?_dropWhile_not (!isSeparator ·) (skipSeparators text)
    rw [Option.mem_def.mp first] at stops
    simpa using stops

theorem words_eq_nil_iff {text : List Char} : words text = [] ↔ skipSeparators text = [] := by
  refine ⟨fun none => ?_, fun ends => words_of_separates (separates_of_skipSeparators ends)⟩
  by_contra goesOn
  obtain ⟨word, rest, skipped, isWord, ends⟩ := exists_word goesOn
  rw [← words_skipSeparators, skipped, words_append isWord ends] at none
  cases none

/-- The first word of a text stands behind its first separators. -/
theorem exists_of_words_eq_cons {text word : List Char} {others : List (List Char)}
    (divided : words text = word :: others) :
    ∃ rest, skipSeparators text = word ++ rest ∧ EndsWord rest ∧ words rest = others := by
  have goesOn : skipSeparators text ≠ [] := by
    rw [Ne, ← words_eq_nil_iff, divided]
    exact List.cons_ne_nil word others
  obtain ⟨first, rest, skipped, isWord, ends⟩ := exists_word goesOn
  rw [← words_skipSeparators, skipped, words_append isWord ends, List.cons.injEq] at divided
  exact ⟨rest, divided.1 ▸ skipped, ends, divided.2⟩

/-! ## The parts of a loop -/

theorem exists_of_readName {text name rest : List Char}
    (read : readName text = some (name, rest)) :
    text = name ++ rest ∧ IsName name ∧ ∀ next ∈ rest.head?, isNameChar next = false := by
  rw [readName] at read
  split at read
  · cases read
  · next nonempty =>
    obtain ⟨rfl, rfl⟩ : text.takeWhile isNameChar = name ∧ text.dropWhile isNameChar = rest := by
      simpa using read
    refine ⟨List.takeWhile_append_dropWhile.symm,
      ⟨by simpa using nonempty, fun _ member => List.mem_takeWhile_imp member⟩, ?_⟩
    intro next first
    have stops := List.head?_dropWhile_not isNameChar text
    rw [Option.mem_def.mp first] at stops
    simpa using stops

theorem readIn_eq_some_iff {text rest : List Char} :
    readIn text = some rest ↔ text = 'i' :: 'n' :: rest ∧ EndsWord rest := by
  fun_cases readIn text with
  | case1 =>
    constructor
    · rintro ⟨⟩
      exact ⟨rfl, nofun⟩
    · rintro ⟨same, -⟩
      obtain rfl : [] = rest := by simpa using same
      rfl
  | case2 next others separates =>
    constructor
    · rintro ⟨⟩
      exact ⟨rfl, fun _ first => Option.some.inj first ▸ separates⟩
    · rintro ⟨same, -⟩
      obtain rfl : next :: others = rest := by simpa using same
      rfl
  | case3 next others solid =>
    simp only [reduceCtorEq, false_iff]
    rintro ⟨same, ends⟩
    obtain rfl : next :: others = rest := by simpa using same
    exact solid (ends next rfl)
  | case4 text noEnd noNext =>
    simp only [reduceCtorEq, false_iff]
    rintro ⟨rfl, -⟩
    cases rest with
    | nil => exact noEnd rfl
    | cons next others => exact noNext next others rfl

namespace LoopHeader

theorem read_eq_ok_iff {text : List Char} {header : LoopHeader} :
    read text = .ok header ↔ ∃ name afterName afterWord source behind,
      require .name readName text = .ok (name, afterName) ∧
      require .word readIn afterName = .ok afterWord ∧
      require .path readPath afterWord = .ok (source, behind) ∧
      require .ending readEnding behind = .ok () ∧
      ⟨.ofList name, .ofList source⟩ = header := by
  constructor
  · intro read
    simp only [LoopHeader.read, bind, Except.bind] at read
    split at read
    · cases read
    next found readsName =>
    split at read
    · cases read
    next found' readsWord =>
    split at read
    · cases read
    next found'' readsSource =>
    split at read
    · cases read
    next ended ends =>
    exact ⟨_, _, _, _, _, readsName, readsWord, readsSource, ends, Except.ok.inj read⟩
  · rintro ⟨name, afterName, afterWord, source, behind, readsName, readsWord, readsSource, ends,
      rfl⟩
    simp only [LoopHeader.read, readsName, readsWord, readsSource, ends, bind, Except.bind, pure,
      Except.pure]

/-- The three words of a loop. -/
structure HasWords (text name source : List Char) : Prop where
  words_eq : words text = [name, ['i', 'n'], source]
  isName : IsName name
  isPath : IsPath source

/-- What is read as a loop has three words. -/
theorem exists_hasWords_of_read {text : List Char} {header : LoopHeader}
    (read : read text = .ok header) :
    ∃ name source, HasWords text name source ∧ ⟨.ofList name, .ofList source⟩ = header := by
  obtain ⟨name, afterName, afterWord, source, behind, readsName, readsWord, readsSource, ends,
    rfl⟩ := read_eq_ok_iff.mp read
  rw [require_eq_ok_iff] at readsName readsWord readsSource ends
  obtain ⟨spellsName, isName, stops⟩ := exists_of_readName readsName
  obtain ⟨spellsWord, endsWord⟩ := readIn_eq_some_iff.mp readsWord
  obtain ⟨spellsSource, isPath⟩ := isPath_of_readPath readsSource
  have separates := separates_of_skipSeparators (readEnding_eq_some_iff.mp ends)
  -- a character that ends a name and separates nothing would have to be the first one of `in`
  have endsName : EndsWord afterName := by
    intro next first
    by_contra solid
    obtain ⟨rest, rfl⟩ : ∃ rest, afterName = next :: rest := by
      cases afterName with
      | nil => cases first
      | cons other rest => exact ⟨rest, congrArg (· :: rest) (Option.some.inj first)⟩
    rw [skipSeparators, List.dropWhile_cons_of_neg solid] at spellsWord
    have noName := stops next rfl
    rw [(List.cons.inj spellsWord).1] at noName
    exact absurd noName (by decide)
  refine ⟨name, source, ⟨?_, isName, isPath⟩, rfl⟩
  calc words text = words (name ++ afterName) := by rw [← spellsName, words_skipSeparators]
    _ = name :: words (['i', 'n'] ++ afterWord) := by
      rw [words_append isName.isWord endsName, ← words_skipSeparators afterName, spellsWord]
      rfl
    _ = [name, ['i', 'n']] ++ words (source ++ behind) := by
      rw [words_append isWord_in endsWord, ← words_skipSeparators afterWord,
        spellsSource]
      rfl
    _ = [name, ['i', 'n'], source] := by
      rw [words_append isPath.isWord separates.endsWord, words_of_separates separates]
      rfl

/-- A text of three words is read as a loop. -/
theorem HasWords.read_eq {text name source : List Char} (has : HasWords text name source) :
    read text = .ok ⟨.ofList name, .ofList source⟩ := by
  obtain ⟨afterName, spellsName, endsName, dividedName⟩ := exists_of_words_eq_cons has.words_eq
  obtain ⟨afterWord, spellsWord, endsWord, dividedWord⟩ := exists_of_words_eq_cons dividedName
  obtain ⟨behind, spellsSource, endsSource, dividedSource⟩ := exists_of_words_eq_cons dividedWord
  refine read_eq_ok_iff.mpr ⟨name, afterName, afterWord, source, behind, ?_, ?_, ?_, ?_, rfl⟩
  · rw [require_eq_ok_iff, spellsName]
    cases afterName with
    | nil => cases dividedName
    | cons next rest => exact readName_append has.isName (endsName next rfl) rest
  · rw [require_eq_ok_iff, spellsWord]
    exact readIn_eq_some_iff.mpr ⟨rfl, endsWord⟩
  · rw [require_eq_ok_iff, spellsSource]
    refine readPath_append has.isPath ?_
    cases behind with
    | nil => exact nofun
    | cons next rest => exact endsPath_of_isSeparator (endsSource next rfl) rest
  · rw [require_eq_ok_iff, words_eq_nil_iff.mp dividedSource]
    rfl

/-- **The language of loops.**  A text is read as a loop exactly if its words are a name, the word
`in` and a path, and reading fails exactly if they are not. -/
theorem read_iff_words (text : List Char) :
    (∀ header, read text = .ok header ↔
      ∃ name source, HasWords text name source ∧ ⟨.ofList name, .ofList source⟩ = header) ∧
    ((∃ error, read text = .error error) ↔ ¬ ∃ name source, HasWords text name source) := by
  have reads (header : LoopHeader) : read text = .ok header ↔
      ∃ name source, HasWords text name source ∧ ⟨.ofList name, .ofList source⟩ = header := by
    refine ⟨exists_hasWords_of_read, ?_⟩
    rintro ⟨name, source, has, rfl⟩
    exact has.read_eq
  refine ⟨reads, ?_⟩
  cases answer : read text with
  | ok header =>
    obtain ⟨name, source, has, -⟩ := (reads header).mp answer
    simp only [reduceCtorEq, exists_false, false_iff, not_not]
    exact ⟨name, source, has⟩
  | error error =>
    simp only [Except.error.injEq, exists_eq', true_iff]
    rintro ⟨name, source, has⟩
    rw [has.read_eq] at answer
    cases answer

/-- The word `in` is also a name and a path.  A fourth word, a name with a point in it and a path
with an empty segment are refused. -/
example : read "in in in".toList = .ok ⟨"in", "in"⟩ ∧
    ["x in y z", "x.y in z", "x in a..b", "xin y"].all
      (fun text => (read text.toList).toOption.isNone) = true := by decide

end LoopHeader

end Stencil.Template
