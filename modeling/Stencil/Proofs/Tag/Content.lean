import Stencil.Proofs.Text.Trimming
import Stencil.Tag.Basic

/-!
# The content of a tag

Every kind of tag is written as a content that is read back as that kind.  Words with a space
between them are split into the same words again, and trimming takes nothing away from them.
-/

namespace Stencil
namespace Word

/-- Whether a text is a single word: a nonempty text without blanks that does not start with a
quote, or a quoted literal whose quote does not occur inside. -/
def isWord : Text → Bool
  | [] => false
  | first :: rest =>
    if isQuote first then
      rest.getLast? = some first && !rest.dropLast.contains first
    else
      (first :: rest).all fun character => !Text.isBlank character

/-- Whether a text is a quoted literal without its closing quote, which does not occur in it. -/
def isUnclosed : Text → Bool
  | [] => false
  | first :: rest => isQuote first && !rest.contains first

/-- Whether texts are words as they are found in a text: only the last one of them may be a quoted
literal without its closing quote. -/
inductive AreWords : List Text → Prop where
  | none : AreWords []
  | unclosed {word : Text} (last : isUnclosed word) : AreWords [word]
  | word {word : Text} {words : List Text} (single : isWord word) (others : AreWords words) :
    AreWords (word :: words)

theorem AreWords.of_forall_isWord
    {words : List Text}
    (single : ∀ word ∈ words, isWord word) : AreWords words := by
  induction words with
  | nil => exact .none
  | cons word words inductionHypothesis =>
    refine .word (single word List.mem_cons_self) (inductionHypothesis fun next member => ?_)
    exact single next (List.mem_cons_of_mem word member)

/-- Words with a space between them. -/
def join : List Text → Text
  | [] => []
  | word :: words => word ++ words.flatMap fun next => ' ' :: next

theorem isBlank_of_isQuote
    {character : Char}
    (quote : isQuote character) : Text.isBlank character = false := by
  rw [isQuote, Bool.or_eq_true, decide_eq_true_eq, decide_eq_true_eq] at quote
  rcases quote with rfl | rfl <;> rfl

/-- A word is a quoted literal or has no blanks. -/
theorem isWord_cases
    {word : Text}
    (single : isWord word) :
    (∃ quote content, word = quote :: (content ++ [quote]) ∧ isQuote quote ∧ quote ∉ content) ∨
      (∃ first rest, word = first :: rest ∧ isQuote first = false ∧
        ∀ character ∈ word, Text.isBlank character = false) := by
  cases word with
  | nil => exact absurd single Bool.false_ne_true
  | cons first rest =>
    rw [isWord] at single
    cases quote : isQuote first with
    | true =>
      rw [if_pos quote, Bool.and_eq_true, decide_eq_true_eq] at single
      obtain ⟨closed, inside⟩ := single
      obtain ⟨content, rfl⟩ := List.getLast?_eq_some_iff.mp closed
      rw [List.dropLast_concat] at inside
      exact .inl ⟨first, content, rfl, quote, by simpa using inside⟩
    | false =>
      rw [if_neg (by rw [quote]; exact Bool.false_ne_true), List.all_eq_true] at single
      refine .inr ⟨first, rest, rfl, quote, ?_⟩
      intro character member
      simpa using single character member

theorem ne_nil_of_isWord
    {word : Text}
    (single : isWord word) : word ≠ [] := by
  rintro rfl
  exact Bool.false_ne_true single

/-- A word starts without a blank. -/
theorem head?_of_isWord
    {word : Text}
    (single : isWord word) :
    ∀ character ∈ word.head?, Text.isBlank character = false := by
  intro character starts
  rcases isWord_cases single with ⟨quote, content, rfl, isQuote, -⟩ | ⟨-, -, -, -, blankFree⟩
  · obtain rfl := Option.some.inj starts
    exact isBlank_of_isQuote isQuote
  · exact blankFree character (List.mem_of_mem_head? starts)

/-- A word ends without a blank. -/
theorem getLast?_of_isWord
    {word : Text}
    (single : isWord word) :
    ∀ character ∈ word.getLast?, Text.isBlank character = false := by
  intro character ends
  rcases isWord_cases single with ⟨quote, content, rfl, isQuote, -⟩ | ⟨-, -, -, -, blankFree⟩
  · rw [← List.cons_append, List.getLast?_concat] at ends
    obtain rfl := Option.some.inj ends
    exact isBlank_of_isQuote isQuote
  · exact blankFree character (List.mem_of_getLast? ends)

/-- Text that ends with a word does not end with a blank. -/
theorem getLast?_append_of_isWord
    {word : Text}
    (single : isWord word)
    (front : Text) :
    ∀ character ∈ (front ++ word).getLast?, Text.isBlank character = false := by
  have last := List.getLast?_eq_some_getLast (ne_nil_of_isWord single)
  rw [List.getLast?_append, last, Option.some_or, ← last]
  exact getLast?_of_isWord single

/-- A quoted literal ends at the first quote like its own. -/
theorem throughQuote_append
    {quote : Char}
    {content : Text}
    (inside : quote ∉ content)
    (after : Text) :
    throughQuote quote (content ++ quote :: after) = (content ++ [quote], after) := by
  induction content with
  | nil => rw [List.nil_append, throughQuote, if_pos rfl, List.nil_append]
  | cons character content inductionHypothesis =>
    rw [List.mem_cons, not_or] at inside
    rw [List.cons_append, throughQuote, if_neg (Ne.symm inside.1), inductionHypothesis inside.2]
    rfl

/-- A literal whose quote does not occur again runs to the end. -/
theorem throughQuote_of_not_mem
    {quote : Char}
    {text : Text}
    (absent : quote ∉ text) : throughQuote quote text = (text, []) := by
  induction text with
  | nil => rfl
  | cons character text inductionHypothesis =>
    rw [List.mem_cons, not_or] at absent
    rw [throughQuote, if_neg (Ne.symm absent.1), inductionHypothesis absent.2]

theorem split_cons_of_isBlank
    {character : Char}
    (blank : Text.isBlank character)
    (rest : Text) : split (character :: rest) = split rest := by
  rw [split, if_pos blank]

theorem split_cons_of_isQuote
    {quote : Char}
    (isQuote : isQuote quote)
    (rest : Text) :
    split (quote :: rest) =
      (quote :: (throughQuote quote rest).1) :: split (throughQuote quote rest).2 := by
  rw [split, isBlank_of_isQuote isQuote, if_neg Bool.false_ne_true, if_pos isQuote]

/-- A quoted literal is split off whatever follows it. -/
theorem split_quoted_append
    {quote : Char}
    {content : Text}
    (isQuote : isQuote quote)
    (inside : quote ∉ content)
    (after : Text) :
    split (quote :: (content ++ [quote]) ++ after) =
      (quote :: (content ++ [quote])) :: split after := by
  rw [List.cons_append, split_cons_of_isQuote isQuote, List.append_assoc, List.singleton_append,
    throughQuote_append inside]

theorem split_unclosed
    {quote : Char}
    {content : Text}
    (isQuote : isQuote quote)
    (absent : quote ∉ content) : split (quote :: content) = [quote :: content] := by
  rw [split_cons_of_isQuote isQuote, throughQuote_of_not_mem absent, split]

/-- A word without quotes is split off what follows it after a blank. -/
theorem split_plain_append
    {first : Char}
    {rest : Text}
    (plain : isQuote first = false)
    (blankFree : ∀ character ∈ first :: rest, Text.isBlank character = false)
    {after : Text}
    (separated : ∀ character ∈ after.head?, Text.isBlank character) :
    split (first :: rest ++ after) = (first :: rest) :: split after := by
  have restFree : ∀ character ∈ rest, (!Text.isBlank character) = true := by
    intro character member
    rw [blankFree character (List.mem_cons_of_mem first member)]
    rfl
  have stops : after.takeWhile (fun next => !Text.isBlank next) = [] ∧
      after.dropWhile (fun next => !Text.isBlank next) = after := by
    cases after with
    | nil => exact ⟨rfl, rfl⟩
    | cons character more => simp [separated character rfl]
  rw [List.cons_append, split, blankFree first List.mem_cons_self, if_neg Bool.false_ne_true,
    plain, if_neg Bool.false_ne_true, List.takeWhile_append_of_pos restFree,
    List.dropWhile_append_of_pos restFree, stops.1, stops.2, List.append_nil]

/-- A word is split off what follows it after a blank. -/
theorem split_append
    {word : Text}
    (single : isWord word)
    {after : Text}
    (separated : ∀ character ∈ after.head?, Text.isBlank character) :
    split (word ++ after) = word :: split after := by
  rcases isWord_cases single with
    ⟨quote, content, rfl, isQuote, inside⟩ | ⟨first, rest, rfl, plain, blankFree⟩
  · exact split_quoted_append isQuote inside after
  · exact split_plain_append plain blankFree separated

theorem split_of_isUnclosed
    {word : Text}
    (unclosed : isUnclosed word) : split word = [word] := by
  cases word with
  | nil => exact absurd unclosed Bool.false_ne_true
  | cons quote content =>
    rw [isUnclosed, Bool.and_eq_true, Bool.not_eq_true', List.contains_eq_mem,
      decide_eq_false_iff_not] at unclosed
    exact split_unclosed unclosed.1 unclosed.2

theorem split_spaced
    {words : List Text}
    (areWords : AreWords words) :
    split (words.flatMap fun next => ' ' :: next) = words := by
  induction areWords with
  | none => rw [List.flatMap_nil, split]
  | unclosed last =>
    rw [List.flatMap_singleton, split_cons_of_isBlank rfl, split_of_isUnclosed last]
  | @word word words single others inductionHypothesis =>
    have separated :
        ∀ character ∈ (words.flatMap fun next => ' ' :: next).head?, Text.isBlank character := by
      intro character starts
      cases words with
      | nil => exact absurd starts (Option.not_mem_none character)
      | cons next words =>
        obtain rfl := Option.some.inj starts
        rfl
    rw [List.flatMap_cons, List.cons_append, split_cons_of_isBlank rfl,
      split_append single separated, inductionHypothesis]

/-- Joined words are split into the same words. -/
theorem split_join
    {words : List Text}
    (areWords : AreWords words) : split (join words) = words := by
  cases words with
  | nil => rw [join, split]
  | cons word words =>
    -- A space in front does not matter to splitting and makes all words look alike.
    have spaced := split_spaced areWords
    rw [List.flatMap_cons, List.cons_append, split_cons_of_isBlank rfl] at spaced
    exact spaced

theorem split_else : split "else".toList = ["else".toList] := by
  have areWords : AreWords ["else".toList] := .word (by decide) .none
  exact split_join areWords

/-- Joined words start as the first of them starts. -/
theorem head?_join
    {word : Text}
    (nonempty : word ≠ [])
    (words : List Text) : (join (word :: words)).head? = word.head? := by
  obtain ⟨first, rest, rfl⟩ := List.exists_cons_of_ne_nil nonempty
  rfl

/-- Text that does not end with a blank does not end with one after more words. -/
theorem getLast?_spaced
    {words : List Text}
    (single : ∀ word ∈ words, isWord word)
    {front : Text}
    (ends : ∀ character ∈ front.getLast?, Text.isBlank character = false) :
    ∀ character ∈ (front ++ words.flatMap fun next => ' ' :: next).getLast?,
      Text.isBlank character = false := by
  induction words generalizing front with
  | nil =>
    rw [List.flatMap_nil, List.append_nil]
    exact ends
  | cons word words inductionHypothesis =>
    rw [List.flatMap_cons, ← List.append_assoc, List.append_cons]
    apply inductionHypothesis fun next member => single next (List.mem_cons_of_mem word member)
    exact getLast?_append_of_isWord (single word List.mem_cons_self) _

/-- Joined words do not end with a blank. -/
theorem getLast?_join
    {words : List Text}
    (single : ∀ word ∈ words, isWord word) :
    ∀ character ∈ (join words).getLast?, Text.isBlank character = false := by
  cases words with
  | nil =>
    intro character ends
    exact absurd ends (Option.not_mem_none character)
  | cons word words =>
    exact getLast?_spaced (fun next member => single next (List.mem_cons_of_mem word member))
      (getLast?_of_isWord (single word List.mem_cons_self))

end Word

namespace Tag.Kind

/-- The content that a kind of tag is written as. -/
def content : Kind → Text
  | opening name arguments => '#' :: Word.join (name :: arguments)
  | closing name => '/' :: name
  | otherwise => "else".toList
  | expression words => Word.join words

/-- Whether words can be written as an expression: there is one, the first of them does not start
like the content of another tag, and they are not the start of an alternative. -/
def isExpression (words : List Text) : Bool :=
  match words with
  | [] => false
  | word :: _ =>
    word.head? ≠ some '#' && word.head? ≠ some '/' && words ≠ ["else".toList]

/-- Whether a kind of tag can be written as a content and read back. -/
def isWritable : Kind → Bool
  | opening name arguments => (name :: arguments).all Word.isWord
  | closing name => Word.isWord name
  | otherwise => true
  | expression words => words.all Word.isWord && isExpression words

variable {kind : Kind}

/-- Nothing is trimmed away from the content of a tag. -/
theorem trim_content (writable : kind.isWritable) : Text.trim kind.content = kind.content := by
  cases kind with
  | opening name arguments =>
    exact Text.trim_cons_eq_self rfl (Word.getLast?_join (List.all_eq_true.mp writable))
  | closing name => exact Text.trim_cons_eq_self rfl (Word.getLast?_of_isWord writable)
  | otherwise => rfl
  | expression words =>
    rw [isWritable, Bool.and_eq_true, List.all_eq_true] at writable
    obtain ⟨single, expression⟩ := writable
    cases words with
    | nil => exact absurd expression Bool.false_ne_true
    | cons word words =>
      have wordSingle := single word List.mem_cons_self
      apply Text.trim_eq_self
      · rw [content, Word.head?_join (Word.ne_nil_of_isWord wordSingle)]
        exact Word.head?_of_isWord wordSingle
      · exact Word.getLast?_join single

theorem content_ne_nil (writable : kind.isWritable) : kind.content ≠ [] := by
  cases kind with
  | opening name arguments => exact List.cons_ne_nil _ _
  | closing name => exact List.cons_ne_nil _ _
  | otherwise => exact List.cons_ne_nil _ _
  | expression words =>
    rw [isWritable, Bool.and_eq_true, List.all_eq_true] at writable
    obtain ⟨single, expression⟩ := writable
    cases words with
    | nil => exact absurd expression Bool.false_ne_true
    | cons word words =>
      have wordNonempty := Word.ne_nil_of_isWord (single word List.mem_cons_self)
      exact List.append_ne_nil_of_left_ne_nil wordNonempty _

theorem ofContent_of_head?
    {text : Text}
    (notOpening : text.head? ≠ some '#')
    (notClosing : text.head? ≠ some '/') :
    ofContent text =
      if text = "else".toList then .otherwise else .expression (Word.split text) := by
  unfold ofContent
  split
  · exact absurd rfl notOpening
  · exact absurd rfl notClosing
  · rfl

/-- The content of a tag is read back as the same kind of tag. -/
theorem ofContent_content (writable : kind.isWritable) : ofContent kind.content = kind := by
  cases kind with
  | opening name arguments =>
    rw [content, ofContent, Word.split_join (.of_forall_isWord (List.all_eq_true.mp writable))]
  | closing name =>
    rw [content, ofContent,
      Text.trim_eq_self (Word.head?_of_isWord writable) (Word.getLast?_of_isWord writable)]
  | otherwise => rfl
  | expression words =>
    rw [isWritable, Bool.and_eq_true, List.all_eq_true] at writable
    obtain ⟨single, expression⟩ := writable
    have splits := Word.split_join (.of_forall_isWord single)
    cases words with
    | nil => exact absurd expression Bool.false_ne_true
    | cons word words =>
      have starts := Word.head?_join (Word.ne_nil_of_isWord (single word List.mem_cons_self)) words
      simp only [isExpression, Bool.and_eq_true, decide_eq_true_eq] at expression
      obtain ⟨⟨notOpening, notClosing⟩, notElse⟩ := expression
      rw [← starts] at notOpening notClosing
      have differs : Word.join (word :: words) ≠ "else".toList := by
        intro same
        rw [same, Word.split_else] at splits
        exact notElse splits.symm
      rw [content, ofContent_of_head? notOpening notClosing, if_neg differs, splits]

end Tag.Kind
end Stencil
