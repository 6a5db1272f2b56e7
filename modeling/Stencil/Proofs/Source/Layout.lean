import Stencil.Proofs.Source.Bodies
import Stencil.Proofs.Source.Outline

/-!
# The layout of tags and tokens

The tags of a text are laid out in it, and so are its tokens: an expression lies where its tag lies,
a block reaches from its opening tag to its closing tag, and tags without a token are left out.
-/

namespace Stencil

open Text (HasSpans)

/-- The tags that a scan meets are laid out in the text. -/
theorem Sighting.Scans.hasSpans
    {delimiters : Delimiters}
    {position : Nat}
    {text : Text}
    {sightings : List Sighting}
    (scans : Scans delimiters position text sightings) :
    HasSpans position text ((sightings.filterMap tag?).map Tag.span) := by
  induction scans with
  | done absent => exact .nil
  | unclosed opened absent => exact .nil
  | @reopened position text before inside content after skipped more sightings opened closed again
      rest inductionHypothesis =>
    rw [eq_append_of_reopened opened closed again]
    apply HasSpans.prepend
    simp only [Text.size_append, ← Nat.add_assoc]
    exact inductionHypothesis
  | @closed position text before inside content after sightings opened closed single rest
      inductionHypothesis =>
    have split : text =
        before ++ (delimiters.opening ++ content ++ delimiters.closing) ++ after := by
      rw [eq_append_of_closed opened closed]
      simp only [List.append_assoc]
    have stop : (delimiters.tagSpan (position + Text.size before) content).stop =
        position + Text.size before +
          Text.size (delimiters.opening ++ content ++ delimiters.closing) := by
      simp only [Delimiters.tagSpan, Text.size_append]
      omega
    rw [stop] at inductionHypothesis
    rw [split]
    cases met : ofContent delimiters (position + Text.size before) content with
    | tag found =>
      have span := span_of_ofContent_eq_tag met
      change HasSpans _ _ (found.span :: (sightings.filterMap tag?).map Tag.span)
      rw [span, show delimiters.tagSpan _ content = ⟨_, _⟩ from congrArg (Span.mk _) stop]
      exact .cons before _ inductionHypothesis
    | _ =>
      apply HasSpans.prepend
      rwa [Text.size_append, ← Nat.add_assoc]

namespace Source

variable {source : Source}

theorem hasSpans_tags (source : Source) :
    HasSpans 0 source.text (source.tags.map Tag.span) := by
  by_cases usable : source.delimiters.opening ≠ [] ∧ source.delimiters.closing ≠ []
  · exact (scans_sightings usable).hasSpans
  · rw [tags_eq_nil usable]
    exact .nil

/-- The tokens of tags that are laid out in a text are laid out in it. -/
theorem hasSpans_outline
    {position : Nat}
    {text : Text}
    {tags : List Tag}
    (laid : HasSpans position text (tags.map Tag.span)) :
    HasSpans position text ((source.outline tags).tokens.map Token.span) := by
  induction tags using source.outline_induction generalizing position text with
  | done => exact .nil
  | @expression tag tags outline words kind inductionHypothesis =>
    obtain ⟨tagKind, span⟩ := tag
    obtain _ | ⟨before, old, later⟩ := laid
    exact .cons before old (inductionHypothesis later)
  | stray stray inductionHypothesis => exact inductionHypothesis laid.tail
  | targetless kind takes inductionHypothesis =>
    rw [List.map_cons, List.map_append, List.map_cons, ← List.cons_append] at laid
    obtain ⟨front, old, rest, rfl, -, later⟩ := laid.exists_split
    apply HasSpans.prepend (front ++ old)
    rw [Text.size_append, ← Nat.add_assoc]
    exact inductionHypothesis later
  | @block tag inside after outline path others block closing kind takes inductionHypothesis =>
    rw [List.map_cons, List.map_append, List.map_cons] at laid
    obtain ⟨tagKind, span⟩ := tag
    obtain _ | ⟨front, opening, behind⟩ := laid
    obtain ⟨between, close, rest, rfl, place, later⟩ := behind.exists_split
    have whole : position + Text.size front + Text.size opening + Text.size between +
        Text.size close = position + Text.size front + Text.size (opening ++ between ++ close) := by
      simp only [Text.size_append]
      omega
    have stop : closing.close.tag.span.stop = _ := (congrArg Span.stop place).trans whole
    rw [whole] at later
    have text : front ++ opening ++ (between ++ close ++ rest) =
        front ++ (opening ++ between ++ close) ++ rest := by
      simp only [List.append_assoc]
    rw [Outline.withToken, List.map_cons, blockToken, Source.token, stop, text]
    exact .cons front _ (inductionHypothesis later)

/-- The tokens of a text are laid out in it. -/
theorem hasSpans_tokens (source : Source) :
    HasSpans 0 source.text (source.parse.tokens.map Token.span) :=
  hasSpans_outline source.hasSpans_tags

end Source
end Stencil
