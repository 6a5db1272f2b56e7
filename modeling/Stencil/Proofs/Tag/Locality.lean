import Stencil.Proofs.Tag.Loose
import Stencil.Proofs.Text.Layout

/-!
# A scan sees one part of the text at a time

The tags of a text are in order, they move with the text, and the tags between two tags are those of
the text between them.  The last holds although a delimiter may reach over the end of that text:
then the scan of the whole could not have met the second tag where it stands.  Nor is a delimiter
left as text there that the whole would not leave as text.
-/

namespace Stencil

/-- A tag moved to the right. -/
def Tag.shift (amount : Nat) (tag : Tag) : Tag := { tag with span := tag.span.shift amount }

@[simp] theorem Tag.shift_kind (amount : Nat) (tag : Tag) :
    (tag.shift amount).kind = tag.kind := rfl

namespace Sighting

/-- What was met, moved to the right. -/
def shift (amount : Nat) : Sighting → Sighting
  | .tag found => .tag (found.shift amount)
  | .blank span => .blank (span.shift amount)
  | .reopened start => .reopened (start + amount)
  | .unterminated start => .unterminated (start + amount)

theorem shift_ofContent
    (amount : Nat)
    (delimiters : Delimiters)
    (start : Nat)
    (content : Text) :
    (ofContent delimiters start content).shift amount =
      ofContent delimiters (start + amount) content := by
  have span : (delimiters.tagSpan start content).shift amount =
      delimiters.tagSpan (start + amount) content := by
    simp only [Delimiters.tagSpan, Span.shift, Span.mk.injEq, true_and]
    omega
  unfold ofContent
  split
  · simp only [shift, span]
  · simp only [shift, Tag.shift, span]

/-- A reading of sightings that moves with them reads the same from them further to the right. -/
theorem filterMap_map_shift
    {reading : Sighting → Option α}
    {amount : Nat}
    {move : α → α}
    (moves : ∀ sighting, reading (shift amount sighting) = (reading sighting).map move)
    (sightings : List Sighting) :
    (sightings.map (shift amount)).filterMap reading =
      (sightings.filterMap reading).map move := by
  rw [List.filterMap_map, List.map_filterMap]
  exact congrArg (List.filterMap · sightings) (funext moves)

theorem tags_map_shift (amount : Nat) (sightings : List Sighting) :
    (sightings.map (shift amount)).filterMap tag? =
      (sightings.filterMap tag?).map (Tag.shift amount) :=
  filterMap_map_shift (fun sighting => by cases sighting <;> rfl) sightings

theorem loose_map_shift (amount : Nat) (sightings : List Sighting) :
    (sightings.map (shift amount)).filterMap loose? =
      (sightings.filterMap loose?).map (· + amount) :=
  filterMap_map_shift (fun sighting => by cases sighting <;> rfl) sightings

theorem eq_tag_of_tag?
    {sighting : Sighting}
    {found : Tag}
    (seen : sighting.tag? = some found) : sighting = .tag found := by
  cases sighting with
  | tag tag => rw [Option.some.inj seen]
  | _ => exact absurd seen.symm (Option.some_ne_none found)

/-- A tag among the tags that were met is one of the sightings. -/
theorem exists_split_of_tags
    {sightings : List Sighting}
    {early late : List Tag}
    {tag : Tag}
    (split : sightings.filterMap tag? = early ++ tag :: late) :
    ∃ before after, sightings = before ++ .tag tag :: after ∧
      before.filterMap tag? = early ∧ after.filterMap tag? = late := by
  induction sightings generalizing early with
  | nil => simp at split
  | cons sighting sightings inductionHypothesis =>
    cases seen : sighting.tag? with
    | none =>
      rw [List.filterMap_cons_none seen] at split
      obtain ⟨before, after, rfl, tagsBefore, tagsAfter⟩ := inductionHypothesis split
      exact ⟨sighting :: before, after, rfl,
        (List.filterMap_cons_none seen).trans tagsBefore, tagsAfter⟩
    | some found =>
      rw [List.filterMap_cons_some seen] at split
      cases early with
      | nil =>
        obtain ⟨rfl, rest⟩ := List.cons.inj split
        exact ⟨[], sightings, by rw [eq_tag_of_tag? seen, List.nil_append], rfl, rest⟩
      | cons first early =>
        obtain ⟨rfl, rest⟩ := List.cons.inj split
        obtain ⟨before, after, rfl, tagsBefore, tagsAfter⟩ := inductionHypothesis rest
        refine ⟨sighting :: before, after, rfl, ?_, tagsAfter⟩
        rw [List.filterMap_cons_some seen, tagsBefore]

namespace Scans

variable {delimiters : Delimiters}

/-- The same text further to the right is scanned in the same way. -/
theorem shift
    {position : Nat}
    {text : Text}
    {sightings : List Sighting}
    (amount : Nat)
    (scans : Scans delimiters position text sightings) :
    Scans delimiters (position + amount) text (sightings.map (Sighting.shift amount)) := by
  induction scans with
  | done absent => exact .done absent
  | @unclosed position text before inside opened absent =>
    rw [List.map_singleton, Sighting.shift, Nat.add_right_comm]
    exact .unclosed opened absent
  | @reopened position text before inside content after skipped more sightings opened closed again
      rest inductionHypothesis =>
    rw [List.map_cons, Sighting.shift, Nat.add_right_comm]
    refine .reopened opened closed again ?_
    rw [Nat.add_right_comm position, Nat.add_right_comm _ amount, Nat.add_right_comm _ amount]
    exact inductionHypothesis
  | @closed position text before inside content after sightings opened closed single rest
      inductionHypothesis =>
    rw [List.map_cons, shift_ofContent, Nat.add_right_comm]
    refine .closed opened closed single ?_
    have stop : (delimiters.tagSpan (position + amount + Text.size before) content).stop =
        (delimiters.tagSpan (position + Text.size before) content).stop + amount := by
      simp only [Delimiters.tagSpan]
      omega
    rw [stop]
    exact inductionHypothesis

/-- The tags of a scan are not empty and lie one after the other. -/
theorem ordered
    (usable : delimiters.opening ≠ [])
    {position : Nat}
    {text : Text}
    {sightings : List Sighting}
    (scans : Scans delimiters position text sightings) :
    (∀ tag ∈ sightings.filterMap tag?, tag.span.start < tag.span.stop) ∧
      (sightings.filterMap tag?).Pairwise fun left right => left.span.stop ≤ right.span.start := by
  have inOrder := scans.inOrder usable
  constructor
  · intro tag member
    obtain ⟨sighting, met, seen⟩ := List.mem_filterMap.mp member
    obtain rfl := eq_tag_of_tag? seen
    exact inOrder.wide _ met
  · refine List.pairwise_filterMap.mpr (inOrder.apart.imp ?_)
    intro left right apart first isFirst second isSecond
    obtain rfl := eq_tag_of_tag? isFirst
    obtain rfl := eq_tag_of_tag? isSecond
    exact apart

/-- After a tag the scan goes on as if nothing had been before it. -/
theorem after_tag
    {position : Nat}
    {text : Text}
    {early late : List Sighting}
    {tag : Tag}
    (scans : Scans delimiters position text (early ++ .tag tag :: late)) :
    ∃ front back, text = front ++ back ∧ position + Text.size front = tag.span.stop ∧
      Scans delimiters tag.span.stop back late := by
  generalize met : early ++ .tag tag :: late = sightings at scans
  induction scans generalizing early with
  | done absent => simp at met
  | unclosed opened absent =>
    rcases List.append_eq_singleton_iff.mp met with ⟨_, only⟩ | ⟨_, only⟩ <;> simp at only
  | @reopened position text before inside content after skipped more sightings opened closed again
      rest inductionHypothesis =>
    cases early with
    | nil => simp at met
    | cons first early =>
      obtain ⟨-, met⟩ := List.cons.inj met
      obtain ⟨front, back, split, size, scans⟩ := inductionHypothesis met
      refine ⟨before ++ delimiters.opening ++ skipped ++ front, back, ?_, ?_, scans⟩
      · rw [eq_append_of_reopened opened closed again, split, List.append_assoc _ front]
      · simp only [Text.size_append]
        omega
  | @closed position text before inside content after sightings opened closed single rest
      inductionHypothesis =>
    have whole := eq_append_of_closed opened closed
    cases early with
    | nil =>
      obtain ⟨same, rfl⟩ := List.cons.inj met
      have span := span_of_ofContent_eq_tag same.symm
      refine ⟨before ++ delimiters.opening ++ content ++ delimiters.closing, after, whole, ?_, ?_⟩
      · rw [span]
        simp only [Text.size_append, Delimiters.tagSpan]
        omega
      · rw [span]
        exact rest
    | cons first early =>
      obtain ⟨-, met⟩ := List.cons.inj met
      obtain ⟨front, back, split, size, scans⟩ := inductionHypothesis met
      refine ⟨before ++ delimiters.opening ++ content ++ delimiters.closing ++ front, back, ?_, ?_,
        scans⟩
      · rw [whole, split, List.append_assoc _ front]
      · simp only [Text.size_append]
        simp only [Delimiters.tagSpan] at size
        omega

/-- Without a closing delimiter there is no tag. -/
theorem tags_eq_nil
    {position : Nat}
    {text : Text}
    {sightings : List Sighting}
    (scans : Scans delimiters position text sightings)
    (absent : Text.cut? delimiters.closing text = none) : sightings.filterMap tag? = [] := by
  have inside {text before inside content after : Text}
      (opened : Text.cut? delimiters.opening text = some (before, inside))
      (closed : Text.cut? delimiters.closing inside = some (content, after)) :
      Text.cut? delimiters.closing text ≠ none := by
    intro absent
    rw [Text.eq_append_of_cut? opened] at absent
    rw [Text.cut?_eq_none_of_append_right absent] at closed
    exact Option.some_ne_none _ closed.symm
  cases scans with
  | done => rfl
  | unclosed => rfl
  | reopened opened closed => exact absurd absent (inside opened closed)
  | closed opened closed => exact absurd absent (inside opened closed)

/-- Whether the part of a text before a position has, read alone, the tags of some sightings, and
leaves no other delimiters as text than they do. -/
def StopsAt
    (delimiters : Delimiters)
    (position : Nat)
    (text : Text)
    (early : List Sighting)
    (start : Nat) : Prop :=
  ∃ front back sightings, text = front ++ back ∧ position + Text.size front = start ∧
    Scans delimiters position front sightings ∧
    sightings.filterMap tag? = early.filterMap tag? ∧
    sightings.filterMap loose? ⊆ early.filterMap loose?

namespace StopsAt

variable
  {position start : Nat}
  {text before inside content after skipped more : Text}
  {early : List Sighting}

/-- If the closing delimiter reaches over the position, every tag that it could close would reach
over it as well, so none is lost; the delimiter that opens again is left as text both times. -/
theorem reopened
    (opened : Text.cut? delimiters.opening text = some (before, inside))
    (closed : Text.cut? delimiters.closing inside = some (content, after))
    (again : Text.cut? delimiters.opening content = some (skipped, more))
    (later : StopsAt delimiters
      (position + Text.size before + Text.size delimiters.opening + Text.size skipped)
      (delimiters.opening ++ more ++ delimiters.closing ++ after) early start) :
    StopsAt delimiters position text (.reopened (position + Text.size before) :: early) start := by
  obtain ⟨front, back, sightings, split, size, scans, tags, loose⟩ := later
  have insideSplit : inside = skipped ++ front ++ back := by
    rw [eq_append_of_again closed again, split, List.append_assoc]
  have whole : text = before ++ delimiters.opening ++ (skipped ++ front) ++ back := by
    rw [Text.eq_append_of_cut? opened, insideSplit, List.append_assoc _ (skipped ++ front)]
  have openedFront : Text.cut? delimiters.opening
      (before ++ delimiters.opening ++ (skipped ++ front)) = some (before, skipped ++ front) := by
    rw [insideSplit] at opened
    exact Text.cut?_of_append opened
  have sizeFront : position +
      Text.size (before ++ delimiters.opening ++ (skipped ++ front)) = start := by
    simp only [Text.size_append]
    omega
  cases closedFront : Text.cut? delimiters.closing (skipped ++ front) with
  | none =>
    have none := Text.cut?_eq_none_of_append_right closedFront
    refine ⟨_, back, _, whole, sizeFront, .unclosed openedFront closedFront, ?_, ?_⟩
    · exact (tags_eq_nil scans none).symm.trans tags
    · exact List.cons_subset_cons _ (List.nil_subset _)
  | some parts =>
    obtain ⟨contentFront, afterFront⟩ := parts
    have extended := Text.cut?_append_of_some closedFront back
    rw [← insideSplit, closed] at extended
    obtain ⟨rfl, rfl⟩ := Prod.mk.inj (Option.some.inj extended)
    rw [List.append_cancel_left (eq_append_of_again closedFront again)] at scans
    exact ⟨_, back, _, whole, sizeFront, .reopened openedFront closedFront again scans, tags,
      List.cons_subset_cons _ loose⟩

theorem closed
    (opened : Text.cut? delimiters.opening text = some (before, inside))
    (closed : Text.cut? delimiters.closing inside = some (content, after))
    (single : Text.cut? delimiters.opening content = none)
    (later : StopsAt delimiters
      (delimiters.tagSpan (position + Text.size before) content).stop after early start) :
    StopsAt delimiters position text
      (ofContent delimiters (position + Text.size before) content :: early) start := by
  obtain ⟨front, back, sightings, rfl, size, scans, tags, loose⟩ := later
  have insideSplit : inside = content ++ delimiters.closing ++ front ++ back := by
    rw [Text.eq_append_of_cut? closed, List.append_assoc _ front]
  have openedFront : Text.cut? delimiters.opening
      (before ++ delimiters.opening ++ (content ++ delimiters.closing ++ front)) =
        some (before, content ++ delimiters.closing ++ front) := by
    rw [insideSplit] at opened
    exact Text.cut?_of_append opened
  refine ⟨_, back, _, ?_, ?_, .closed openedFront (Text.cut?_of_append closed) single scans, ?_, ?_⟩
  · rw [Text.eq_append_of_cut? opened, insideSplit]
    simp only [List.append_assoc]
  · simp only [Delimiters.tagSpan] at size
    simp only [Text.size_append]
    omega
  · rw [List.filterMap_cons, List.filterMap_cons, tags]
  · rwa [List.filterMap_cons_none (loose?_ofContent _ _ _),
      List.filterMap_cons_none (loose?_ofContent _ _ _)]

end StopsAt

/-- The text before a tag has the tags that are met before it. -/
theorem before_tag
    (usable : delimiters.opening ≠ [])
    {position : Nat}
    {text : Text}
    {early late : List Sighting}
    {tag : Tag}
    (scans : Scans delimiters position text (early ++ .tag tag :: late)) :
    StopsAt delimiters position text early tag.span.start := by
  generalize met : early ++ .tag tag :: late = sightings at scans
  induction scans generalizing early with
  | done absent => simp at met
  | unclosed opened absent =>
    rcases List.append_eq_singleton_iff.mp met with ⟨_, only⟩ | ⟨_, only⟩ <;> simp at only
  | reopened opened closed again rest inductionHypothesis =>
    cases early with
    | nil => simp at met
    | cons first early =>
      obtain ⟨rfl, remaining⟩ := List.cons.inj met
      exact (inductionHypothesis remaining).reopened opened closed again
  | @closed position text before inside content after sightings opened closed single rest
      inductionHypothesis =>
    cases early with
    | nil =>
      obtain ⟨same, rfl⟩ := List.cons.inj met
      have span := span_of_ofContent_eq_tag same.symm
      refine ⟨before, delimiters.opening ++ inside, [], ?_, ?_, ?_, rfl, List.nil_subset _⟩
      · rw [Text.eq_append_of_cut? opened, List.append_assoc]
      · rw [span]
        rfl
      · exact .done (Text.cut?_eq_none_of_some usable opened)
    | cons first early =>
      obtain ⟨rfl, remaining⟩ := List.cons.inj met
      exact (inductionHypothesis remaining).closed opened closed single

/-- The text between two tags has the tags that are met between them, and leaves no other
delimiters as text than are left there. -/
theorem between_tags
    (usable : delimiters.opening ≠ [])
    {position : Nat}
    {text : Text}
    {early middle late : List Sighting}
    {left right : Tag}
    (scans : Scans delimiters position text
      (early ++ .tag left :: (middle ++ .tag right :: late))) :
    ∃ front body back sightings, text = front ++ body ++ back ∧
      position + Text.size front = left.span.stop ∧
      left.span.stop + Text.size body = right.span.start ∧
      Scans delimiters left.span.stop body sightings ∧
      sightings.filterMap tag? = middle.filterMap tag? ∧
      sightings.filterMap loose? ⊆ middle.filterMap loose? := by
  obtain ⟨front, rest, split, stop, scansRest⟩ := scans.after_tag
  obtain ⟨body, back, sightings, splitRest, start, scansBody, tags, loose⟩ :=
    scansRest.before_tag usable
  refine ⟨front, body, back, sightings, ?_, stop, start, scansBody, tags, loose⟩
  rw [split, splitRest, List.append_assoc]

end Scans
end Sighting
end Stencil
