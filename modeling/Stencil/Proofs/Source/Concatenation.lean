import Stencil.Proofs.Source.Relocation

/-!
# Reading one text after another

Two texts that are put together are read one after the other, provided that the first one leaves
nothing open: no opening delimiter without a closing one, no block without its end, and no opening
delimiter that reaches over the seam.
-/

namespace Stencil

namespace Sighting

/-- A text that leaves no delimiter open is scanned in the same way when another text follows, and
then the other text is scanned. -/
theorem Scans.append
    {delimiters : Delimiters}
    {position : Nat}
    {left right : Text}
    {sightings later : List Sighting}
    (scansLeft : Scans delimiters position left sightings)
    (terminated : ∀ sighting ∈ sightings, sighting.unterminated? = none)
    (apart : ¬ Text.Straddles delimiters.opening left right)
    (scansRight : Scans delimiters (position + Text.size left) right later) :
    Scans delimiters position (left ++ right) (sightings ++ later) := by
  induction scansLeft with
  | done absent => exact scansRight.prepend (Text.cut?_append_of_not_straddles absent apart)
  | unclosed opened absent =>
    exact absurd (terminated _ List.mem_cons_self) (Option.some_ne_none _)
  | @reopened position left before inside content after skipped more sightings opened closed again
      rest inductionHypothesis =>
    have split := eq_append_of_reopened opened closed again
    have scansRest := inductionHypothesis
      (fun sighting member => terminated sighting (List.mem_cons_of_mem _ member))
      (fun straddles => apart (split ▸ straddles.append_left _))
    refine .reopened (Text.cut?_append_of_some opened right) (Text.cut?_append_of_some closed right)
      again ?_
    rw [← List.append_assoc]
    apply scansRest
    rw [split] at scansRight
    simpa only [Text.size_append, Nat.add_assoc] using scansRight
  | @closed position left before inside content after sightings opened closed single rest
      inductionHypothesis =>
    have split := eq_append_of_closed opened closed
    have scansRest := inductionHypothesis
      (fun sighting member => terminated sighting (List.mem_cons_of_mem _ member))
      (fun straddles => apart (split ▸ straddles.append_left _))
    refine .closed (Text.cut?_append_of_some opened right) (Text.cut?_append_of_some closed right)
      single ?_
    apply scansRest
    rw [split] at scansRight
    simpa only [Delimiters.tagSpan, Text.size_append, Nat.add_assoc] using scansRight

end Sighting

namespace Source

/-- Another text in the same place. -/
def withText (source : Source) (text : Text) : Source := { source with text := text }

variable
  (source : Source)
  {left right : Text}
  (terminated : (source.withText left).parse.unterminated? = none)
  (apart : ¬ Text.Straddles source.delimiters.opening left right)

theorem holds_left (left right : Text) :
    (source.withText (left ++ right)).Holds (source.withText left) 0 0 where
  isHelper_eq := rfl
  place_eq := rfl
  slice_eq start _ inside := Text.slice_append_append [] left right start inside

theorem holds_right (left right : Text) :
    (source.withText (left ++ right)).Holds (source.withText right) (Text.size left)
      (Text.size left) where
  isHelper_eq := rfl
  place_eq := rfl
  slice_eq start stop inside := by
    have whole := Text.slice_append_append left right [] start inside
    rwa [List.append_nil] at whole

include terminated apart

/-- The tags of two texts are those of the first one, and those of the second one behind it. -/
theorem tags_append :
    (source.withText (left ++ right)).tags =
      (source.withText left).tags ++
        (source.withText right).tags.map (Tag.shift (Text.size left)) := by
  by_cases usable : source.delimiters.opening ≠ [] ∧ source.delimiters.closing ≠ []
  · have none : ∀ sighting ∈ (source.withText left).sightings, sighting.unterminated? = none := by
      rw [parse, Option.map_eq_none_iff] at terminated
      exact List.findSome?_eq_none_iff.mp terminated
    have scansRight := (@scans_sightings (source.withText right) usable).shift (Text.size left)
    have whole := (@scans_sightings (source.withText left) usable).append none apart scansRight
    have same : (source.withText (left ++ right)).sightings = _ :=
      ((@scans_sightings (source.withText (left ++ right)) usable).eq_scanFrom usable.1).trans
        (whole.eq_scanFrom usable.1).symm
    rw [tags, same, List.filterMap_append, Sighting.tags_map_shift]
    rfl
  · have unusable (text : Text) : (source.withText text).tags = [] := tags_eq_nil usable
    rw [unusable, unusable, unusable]
    rfl

/-- The tokens of two texts are those of the first one, and those of the second one behind it. -/
theorem tokens_append
    (paired : ∀ problem ∈ (source.withText left).parse.problems,
      problem.isUnclosedBlock = false) :
    (source.withText (left ++ right)).parse.tokens =
      (source.withText left).parse.tokens ++
        (source.withText right).parse.tokens.map
          (Token.move (Text.size left) (Text.size left)) := by
  let whole := source.withText (left ++ right)
  let leftTags := (source.withText left).tags
  let rightTags := (source.withText right).tags
  have first : whole.outline leftTags =
      ((source.withText left).outline leftTags).relocate 0 ⟨0, 0⟩ := by
    have moved := @Holds.outline_eq _ _ _ ⟨0, 0⟩ (source.holds_left left right) leftTags
      (source.withText left).tags_inside
    rwa [show leftTags.map (Tag.shift 0) = leftTags from List.map_id _] at moved
  have second : whole.outline (rightTags.map (Tag.shift (Text.size left))) =
      ((source.withText right).outline rightTags).relocate (Text.size left) ⟨Text.size left, 0⟩ :=
    @Holds.outline_eq _ _ _ ⟨Text.size left, 0⟩ (source.holds_right left right) rightTags
      (source.withText right).tags_inside
  have pairedWhole : ∀ problem ∈ (whole.outline leftTags).problems,
      problem.isUnclosedBlock = false := by
    rw [first]
    intro problem member
    obtain ⟨original, found, rfl⟩ := List.mem_map.mp member
    rw [Problem.isUnclosedBlock_relocate]
    exact paired original found
  have unmoved : Token.move 0 0 = id := funext Token.move_zero
  change (whole.outline whole.tags).tokens = _
  rw [source.tags_append terminated apart, outline_append pairedWhole, first, second,
    Outline.tokens_append, Outline.relocate, Outline.relocate, unmoved, List.map_id]
  rfl

end Source
end Stencil
