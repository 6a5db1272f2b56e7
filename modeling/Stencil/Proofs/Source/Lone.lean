import Stencil.Proofs.Tag.Fragment
import Stencil.Proofs.Tag.Splitting
import Stencil.Source

/-!
# A tag that stands alone

A text that is nothing but one expression between delimiters has one token, whatever blanks there
are around the words of the expression.
-/

namespace Stencil

namespace Tag.Kind

variable
  {content : Text}
  {words : List Text}
  (splits : Word.SplitsInto content words)
  (writable : (expression words).isWritable)

include splits writable

/-- Trimming leaves a content that starts with its first word. -/
theorem exists_trim_eq :
    ∃ word others rest, words = word :: others ∧ word ≠ [] ∧ Text.trim content = word ++ rest := by
  rw [isWritable, Bool.and_eq_true, List.all_eq_true] at writable
  obtain ⟨single, expression⟩ := writable
  cases words with
  | nil => exact absurd expression Bool.false_ne_true
  | cons word others =>
    have wordSingle := single word List.mem_cons_self
    obtain ⟨rest, starts⟩ := splits.exists_trim_eq wordSingle
    exact ⟨word, others, rest, rfl, Word.ne_nil_of_isWord wordSingle, starts⟩

/-- Blanks around the words of an expression do not matter to the kind of its tag. -/
theorem ofContent_trim : ofContent (Text.trim content) = .expression words := by
  obtain ⟨word, others, rest, rfl, nonempty, starts⟩ := exists_trim_eq splits writable
  rw [isWritable, Bool.and_eq_true, List.all_eq_true] at writable
  obtain ⟨single, expression⟩ := writable
  have words_eq := Word.split_trim splits single
  have sameHead : (Text.trim content).head? = word.head? := by
    obtain ⟨first, letters, rfl⟩ := List.exists_cons_of_ne_nil nonempty
    rw [starts]
    rfl
  simp only [isExpression, Bool.and_eq_true, decide_eq_true_eq] at expression
  obtain ⟨⟨notOpening, notClosing⟩, notElse⟩ := expression
  rw [← sameHead] at notOpening notClosing
  have differs : Text.trim content ≠ "else".toList := by
    intro same
    rw [same, Word.split_else] at words_eq
    exact notElse words_eq.symm
  rw [ofContent_of_head? notOpening notClosing, if_neg differs, words_eq]

end Tag.Kind

/-- A text that is one expression between delimiters has one token, and nothing is wrong with it. -/
theorem Source.parse_of_expression
    {source : Source}
    {content : Text}
    {words : List Text}
    (usable : source.delimiters.opening ≠ [] ∧ source.delimiters.closing ≠ [])
    (absent : source.delimiters.areAbsentFrom content)
    (splits : Word.SplitsInto content words)
    (writable : (Tag.Kind.expression words).isWritable)
    (written : source.text =
      source.delimiters.opening ++ content ++ source.delimiters.closing) :
    source.parse =
      ⟨[source.token (.ofWords source.isHelper words) (source.delimiters.tagSpan 0 content)],
        [], none, []⟩ := by
  have scans : Sighting.Scans source.delimiters 0
      (source.delimiters.opening ++ content ++ source.delimiters.closing ++ [])
      [.ofContent source.delimiters 0 content] :=
    .content_append usable absent (.done (Text.cut?_nil usable.1))
  rw [List.append_nil, ← written] at scans
  have sightings : source.sightings =
      [.tag ⟨.expression words, source.delimiters.tagSpan 0 content⟩] := by
    have met : source.sightings = [Sighting.ofContent source.delimiters 0 content] := by
      rw [scans.eq_scanFrom usable.1]
      exact dif_pos usable
    obtain ⟨word, others, rest, -, nonempty, starts⟩ := Tag.Kind.exists_trim_eq splits writable
    have shown : (Text.trim content).isEmpty = false := by
      rw [starts, List.isEmpty_eq_false_iff]
      exact List.append_ne_nil_of_left_ne_nil nonempty rest
    rw [met, Sighting.ofContent, shown, Tag.Kind.ofContent_trim splits writable]
    rfl
  have outlined : source.outline [⟨.expression words, source.delimiters.tagSpan 0 content⟩] =
      ⟨[source.token (.ofWords source.isHelper words) (source.delimiters.tagSpan 0 content)],
        []⟩ := by
    simp only [outline]
    rfl
  rw [parse, sightings]
  simp only [List.filterMap_cons, Sighting.tag?, List.filterMap_nil, outlined]
  rfl

end Stencil
