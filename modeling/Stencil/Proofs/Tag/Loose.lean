import Stencil.Proofs.Tag.Scanning

/-!
# Opening delimiters left as text

An opening delimiter is left as text when it is opened again before it is closed, or when it is
never closed.  A scan meets each of them once, in order, and only the last one can be of the second
sort.
-/

namespace Stencil
namespace Sighting

/-- Where an opening delimiter stands that is left as text. -/
def loose? : Sighting → Option Nat
  | .reopened start => some start
  | .unterminated start => some start
  | _ => none

@[simp] theorem loose?_ofContent (delimiters : Delimiters) (start : Nat) (content : Text) :
    (ofContent delimiters start content).loose? = none := by
  unfold ofContent
  split <;> rfl

@[simp] theorem reopened?_ofContent (delimiters : Delimiters) (start : Nat) (content : Text) :
    (ofContent delimiters start content).reopened? = none := by
  unfold ofContent
  split <;> rfl

@[simp] theorem unterminated?_ofContent (delimiters : Delimiters) (start : Nat) (content : Text) :
    (ofContent delimiters start content).unterminated? = none := by
  unfold ofContent
  split <;> rfl

theorem start_span_of_loose?
    {delimiters : Delimiters}
    {sighting : Sighting}
    {start : Nat}
    (left : sighting.loose? = some start) : (sighting.span delimiters).start = start := by
  cases sighting with
  | reopened position => exact Option.some.inj left
  | unterminated position => exact Option.some.inj left
  | _ => exact nomatch left

namespace Scans

variable
  {delimiters : Delimiters}
  {position : Nat}
  {text : Text}
  {sightings : List Sighting}

/-- Where a delimiter is left as text, the opening delimiter stands in the text. -/
theorem exists_occurrence
    (scans : Scans delimiters position text sightings)
    {start : Nat}
    (met : start ∈ sightings.filterMap loose?) :
    ∃ before after, text = before ++ delimiters.opening ++ after ∧
      position + Text.size before = start := by
  induction scans with
  | done absent => exact absurd met List.not_mem_nil
  | @unclosed position text before inside opened absent =>
    rw [List.mem_singleton.mp met]
    exact ⟨before, inside, Text.eq_append_of_cut? opened, rfl⟩
  | @reopened position text before inside content after skipped more sightings opened closed again
      rest inductionHypothesis =>
    rcases List.mem_cons.mp met with rfl | later
    · exact ⟨before, inside, Text.eq_append_of_cut? opened, rfl⟩
    · obtain ⟨front, back, split, place⟩ := inductionHypothesis later
      refine ⟨before ++ delimiters.opening ++ skipped ++ front, back, ?_, ?_⟩
      · rw [eq_append_of_reopened opened closed again, split]
        simp only [List.append_assoc]
      · rw [← place]
        simp only [Text.size_append, Nat.add_assoc]
  | @closed position text before inside content after sightings opened closed single rest
      inductionHypothesis =>
    rw [List.filterMap_cons_none (loose?_ofContent _ _ _)] at met
    obtain ⟨front, back, split, place⟩ := inductionHypothesis met
    refine ⟨before ++ delimiters.opening ++ content ++ delimiters.closing ++ front, back, ?_, ?_⟩
    · rw [eq_append_of_closed opened closed, split]
      simp only [List.append_assoc]
    · rw [← place]
      simp only [Delimiters.tagSpan, Text.size_append, Nat.add_assoc]

/-- Delimiters that are left as text are met from left to right. -/
theorem loose_increasing
    (usable : delimiters.opening ≠ [])
    (scans : Scans delimiters position text sightings) :
    (sightings.filterMap loose?).Pairwise (· < ·) := by
  have inOrder := scans.inOrder usable
  refine List.pairwise_filterMap.mpr (inOrder.apart.imp_of_mem ?_)
  intro left right here there apart start left? stop right?
  have wide := inOrder.wide left here
  rw [start_span_of_loose? left?] at wide
  rw [start_span_of_loose? right?] at apart
  omega

/-- Only the last delimiter that is left as text can be one that is never closed. -/
theorem loose_eq_append (scans : Scans delimiters position text sightings) :
    sightings.filterMap loose? =
      sightings.filterMap reopened? ++ (sightings.findSome? unterminated?).toList := by
  induction scans with
  | done absent => rfl
  | unclosed opened absent => rfl
  | reopened opened closed again rest inductionHypothesis =>
    exact congrArg (List.cons _) inductionHypothesis
  | closed opened closed single rest inductionHypothesis =>
    rw [List.filterMap_cons_none (loose?_ofContent _ _ _),
      List.filterMap_cons_none (reopened?_ofContent _ _ _), List.findSome?_cons,
      unterminated?_ofContent]
    exact inductionHypothesis

end Scans
end Sighting
end Stencil
