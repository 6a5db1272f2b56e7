import Stencil.Proofs.Tag.Content

/-!
# Splitting a text into words

A text is split into words that stand in it one after the other, with blanks around them and nothing
else.  Each word goes as far as it can, so there is one way of splitting a text, and words that are
joined by spaces are split into the same words again.
-/

namespace Stencil
namespace Word

/-- Whether a text is split into certain words.  They stand in the text in order and do not overlap,
and all else in the text is blank. -/
inductive SplitsInto : Text → List Text → Prop where
  /-- A text of blanks has no words. -/
  | blank {gap : Text} (blank : ∀ character ∈ gap, Text.isBlank character) : SplitsInto gap []
  /-- A word that does not start with a quote goes on to the next blank or to the end. -/
  | plain
    {gap word rest : Text}
    {words : List Text}
    (blank : ∀ character ∈ gap, Text.isBlank character)
    (nonempty : word ≠ [])
    (unquoted : ∀ character ∈ word.head?, isQuote character = false)
    (blankFree : ∀ character ∈ word, Text.isBlank character = false)
    (ends : ∀ character ∈ rest.head?, Text.isBlank character)
    (later : SplitsInto rest words) : SplitsInto (gap ++ word ++ rest) (word :: words)
  /-- A quoted literal goes on to the next quote like its first one. -/
  | quoted
    {gap content rest : Text}
    {quote : Char}
    {words : List Text}
    (blank : ∀ character ∈ gap, Text.isBlank character)
    (isQuote : isQuote quote)
    (inside : quote ∉ content)
    (later : SplitsInto rest words) :
    SplitsInto (gap ++ (quote :: (content ++ [quote])) ++ rest)
      ((quote :: (content ++ [quote])) :: words)
  /-- A quoted literal without its closing quote goes on to the end. -/
  | unclosed
    {gap content : Text}
    {quote : Char}
    (blank : ∀ character ∈ gap, Text.isBlank character)
    (isQuote : isQuote quote)
    (absent : quote ∉ content) : SplitsInto (gap ++ quote :: content) [quote :: content]

theorem split_blank_append
    {gap : Text}
    (blank : ∀ character ∈ gap, Text.isBlank character)
    (text : Text) : split (gap ++ text) = split text := by
  induction gap with
  | nil => rfl
  | cons character gap inductionHypothesis =>
    rw [List.cons_append, split_cons_of_isBlank (blank character List.mem_cons_self)]
    refine inductionHypothesis fun other member => ?_
    exact blank other (List.mem_cons_of_mem character member)

namespace SplitsInto

variable {text : Text} {words : List Text}

/-- A blank in front makes a gap longer. -/
theorem cons_blank
    {character : Char}
    (isBlank : Text.isBlank character)
    (splits : SplitsInto text words) : SplitsInto (character :: text) words := by
  cases splits with
  | blank blank => exact .blank (List.forall_mem_cons.mpr ⟨isBlank, blank⟩)
  | plain blank nonempty unquoted blankFree ends later =>
    exact .plain (List.forall_mem_cons.mpr ⟨isBlank, blank⟩) nonempty unquoted blankFree ends later
  | quoted blank isQuote inside later =>
    exact .quoted (List.forall_mem_cons.mpr ⟨isBlank, blank⟩) isQuote inside later
  | unclosed blank isQuote absent =>
    exact .unclosed (List.forall_mem_cons.mpr ⟨isBlank, blank⟩) isQuote absent

/-- There is one way of splitting a text. -/
theorem split_eq (splits : SplitsInto text words) : split text = words := by
  induction splits with
  | @blank gap blank =>
    have split_gap := split_blank_append blank []
    rwa [List.append_nil, split] at split_gap
  | @plain gap word rest words blank nonempty unquoted blankFree ends later inductionHypothesis =>
    obtain ⟨first, others, rfl⟩ := List.exists_cons_of_ne_nil nonempty
    rw [List.append_assoc, split_blank_append blank,
      split_plain_append (unquoted first rfl) blankFree ends, inductionHypothesis]
  | quoted blank isQuote inside later inductionHypothesis =>
    rw [List.append_assoc, split_blank_append blank, split_quoted_append isQuote inside,
      inductionHypothesis]
  | unclosed blank isQuote absent =>
    rw [split_blank_append blank, split_unclosed isQuote absent]

/-- A word that starts with a quote is taken up to the quote that closes it. -/
theorem cons_quote
    {quote : Char}
    (isQuote : isQuote quote)
    (rest : Text)
    (later : SplitsInto (throughQuote quote rest).2 words) :
    SplitsInto (quote :: rest) ((quote :: (throughQuote quote rest).1) :: words) := by
  have noGap : ∀ character ∈ ([] : Text), Text.isBlank character :=
    fun _ absent => absurd absent List.not_mem_nil
  by_cases closes : quote ∈ rest
  · obtain ⟨content, after, rfl, inside⟩ := List.eq_append_cons_of_mem closes
    rw [throughQuote_append inside] at later ⊢
    have splits := quoted noGap isQuote inside later
    rwa [List.nil_append, List.cons_append, List.append_assoc] at splits
  · rw [throughQuote_of_not_mem closes] at later ⊢
    -- Nothing is left behind a literal that runs to the end.
    obtain rfl : [] = words := later.split_eq ▸ (by rw [split])
    exact unclosed noGap isQuote closes

/-- A word that does not start with a quote is taken up to the next blank. -/
theorem cons_plain
    {first : Char}
    (plain : Text.isBlank first = false)
    (unquoted : isQuote first = false)
    (rest : Text)
    (later : SplitsInto (rest.dropWhile fun next => !Text.isBlank next) words) :
    SplitsInto (first :: rest)
      ((first :: rest.takeWhile fun next => !Text.isBlank next) :: words) := by
  have noGap : ∀ character ∈ ([] : Text), Text.isBlank character :=
    fun _ absent => absurd absent List.not_mem_nil
  have starts : ∀ character ∈ (first :: rest.takeWhile fun next => !Text.isBlank next).head?,
      isQuote character = false := by
    intro character here
    exact Option.some.inj here ▸ unquoted
  have blankFree : ∀ character ∈ first :: rest.takeWhile fun next => !Text.isBlank next,
      Text.isBlank character = false := by
    refine List.forall_mem_cons.mpr ⟨plain, fun character member => ?_⟩
    simpa using List.all_eq_true.mp List.all_takeWhile character member
  have ends : ∀ character ∈ (rest.dropWhile fun next => !Text.isBlank next).head?,
      Text.isBlank character := by
    intro character here
    have stopped := List.head?_dropWhile_not (fun next => !Text.isBlank next) rest
    rw [Option.mem_def.mp here] at stopped
    simpa using stopped
  have splits := SplitsInto.plain noGap (List.cons_ne_nil _ _) starts blankFree ends later
  rwa [List.nil_append, List.cons_append, List.takeWhile_append_dropWhile] at splits

/-- Only the last word of a text may lack its closing quote. -/
theorem areWords (splits : SplitsInto text words) : AreWords words := by
  induction splits with
  | blank blank => exact .none
  | @plain gap word rest words blank nonempty unquoted blankFree ends later inductionHypothesis =>
    obtain ⟨first, others, rfl⟩ := List.exists_cons_of_ne_nil nonempty
    refine .word ?_ inductionHypothesis
    rw [isWord, unquoted first rfl, if_neg Bool.false_ne_true, List.all_eq_true]
    intro character member
    rw [blankFree character member]
    rfl
  | @quoted gap content rest quote words blank isQuote inside later inductionHypothesis =>
    refine .word ?_ inductionHypothesis
    rw [isWord, if_pos isQuote, List.getLast?_concat, List.dropLast_concat]
    simpa using inside
  | unclosed blank isQuote absent =>
    refine .unclosed ?_
    rw [isUnclosed, isQuote]
    simpa using absent

end SplitsInto

theorem splitsInto_split (text : Text) : SplitsInto text (split text) := by
  fun_induction split text with
  | case1 => exact .blank fun _ absent => absurd absent List.not_mem_nil
  | case2 character rest blank inductionHypothesis => exact inductionHypothesis.cons_blank blank
  | case3 quote rest _ isQuote inductionHypothesis =>
    exact inductionHypothesis.cons_quote isQuote rest
  | case4 first rest plain unquoted inductionHypothesis =>
    exact inductionHypothesis.cons_plain (Bool.eq_false_iff.mpr plain)
      (Bool.eq_false_iff.mpr unquoted) rest

namespace SplitsInto

variable {text : Text} {words : List Text}

/-- Blanks at the end do not matter to words that are closed. -/
theorem trimEnd
    (splits : SplitsInto text words)
    (single : ∀ word ∈ words, isWord word) : SplitsInto (Text.trimEnd text) words := by
  induction splits with
  | @blank gap blank =>
    have nothing : Text.trimEnd gap = [] := by
      rw [Text.trimEnd, List.reverse_eq_nil_iff, Text.dropWhile_isBlank_eq_nil_iff]
      exact fun character member => blank character (List.mem_reverse.mp member)
    rw [nothing]
    exact .blank fun _ absent => absurd absent List.not_mem_nil
  | @plain gap word rest words blank nonempty unquoted blankFree ends later inductionHypothesis =>
    have closed := getLast?_append_of_isWord (single word List.mem_cons_self) gap
    have stillEnds : ∀ character ∈ (Text.trimEnd rest).head?, Text.isBlank character :=
      fun character first => ends character (Text.head?_of_head?_trimEnd first)
    rw [Text.trimEnd_append closed]
    exact .plain blank nonempty unquoted blankFree stillEnds
      (inductionHypothesis fun next member => single next (List.mem_cons_of_mem word member))
  | @quoted gap content rest quote words blank isQuote inside later inductionHypothesis =>
    rw [Text.trimEnd_append (getLast?_append_of_isWord (single _ List.mem_cons_self) gap)]
    exact .quoted blank isQuote inside
      (inductionHypothesis fun next member => single next (List.mem_cons_of_mem _ member))
  | @unclosed gap content quote blank isQuote absent =>
    -- A literal without its closing quote is not a word.
    have closed := single _ List.mem_cons_self
    rw [isWord, if_pos isQuote, Bool.and_eq_true, decide_eq_true_eq] at closed
    exact absurd (List.mem_of_getLast? closed.1) absent

/-- Trimming leaves a text whose first word stands at its start. -/
theorem exists_trim_eq
    {word : Text}
    (splits : SplitsInto text (word :: words))
    (single : isWord word) : ∃ rest, Text.trim text = word ++ rest := by
  obtain ⟨gap, rest, rfl, blank⟩ : ∃ gap rest, text = gap ++ (word ++ rest) ∧
      ∀ character ∈ gap, Text.isBlank character := by
    cases splits with
    | plain blank => exact ⟨_, _, List.append_assoc _ _ _, blank⟩
    | quoted blank => exact ⟨_, _, List.append_assoc _ _ _, blank⟩
    | unclosed blank => exact ⟨_, [], by rw [List.append_nil], blank⟩
  have starts : ∀ character ∈ (word ++ rest).head?, Text.isBlank character = false := by
    intro character here
    obtain ⟨first, others, rfl⟩ := List.exists_cons_of_ne_nil (ne_nil_of_isWord single)
    exact head?_of_isWord single character here
  rw [Text.trim, Text.trimStart, List.dropWhile_append_of_pos blank,
    Text.dropWhile_isBlank_eq_self starts, Text.trimEnd_append (getLast?_of_isWord single)]
  exact ⟨_, rfl⟩

end SplitsInto

theorem split_trimStart (text : Text) : split (Text.trimStart text) = split text := by
  have blank : ∀ character ∈ text.takeWhile Text.isBlank, Text.isBlank character :=
    List.all_eq_true.mp List.all_takeWhile
  have skipped := split_blank_append blank (Text.trimStart text)
  rw [Text.trimStart, List.takeWhile_append_dropWhile] at skipped
  exact skipped.symm

/-- Words that are closed do not change when the text around them is trimmed. -/
theorem split_trim
    {text : Text}
    {words : List Text}
    (splits : SplitsInto text words)
    (single : ∀ word ∈ words, isWord word) : split (Text.trim text) = words := by
  have started := splitsInto_split (Text.trimStart text)
  rw [split_trimStart, splits.split_eq] at started
  exact (started.trimEnd single).split_eq

/-- Words with a space between them are a text that is split into them. -/
theorem splitsInto_join
    {words : List Text}
    (areWords : AreWords words) : SplitsInto (join words) words := by
  have splits := splitsInto_split (join words)
  rwa [split_join areWords] at splits

/-- Splitting loses nothing and undoes joining.  The words of a text are the only ones that it
splits into, and they are words of which the last one alone may lack its closing quote.  Such words,
joined by spaces, are split into the same words. -/
theorem split_isLossless (text : Text) :
    (∀ words, split text = words ↔ SplitsInto text words) ∧
      AreWords (split text) ∧
      split (join (split text)) = split text ∧
      ∀ words, AreWords words → split (join words) = words := by
  have splits := splitsInto_split text
  refine ⟨fun words => ⟨?_, SplitsInto.split_eq⟩, splits.areWords, split_join splits.areWords, ?_⟩
  · rintro rfl
    exact splits
  · exact fun words => split_join

/-- Literals that touch other words, a quote inside a word, and a literal that is not closed. -/
theorem split_isLossless_touching :
    let text := " 'a \"b'c'd  \"x ' ".toList
    let words := ["'a \"b'".toList, "c'd".toList, "\"x ' ".toList]
    SplitsInto text words ∧ AreWords words ∧ split (join words) = words := by
  intro text words
  have isSplit : split text = words := by decide +kernel
  obtain ⟨splits, -, -, rejoins⟩ := split_isLossless text
  have areWords : AreWords words := .word (by decide) (.word (by decide) (.unclosed (by decide)))
  exact ⟨(splits words).mp isSplit, areWords, rejoins words areWords⟩

end Word
end Stencil
