import Stencil.Proofs.Tag.Exhaustion
import Stencil.Proofs.Tag.Fragment

/-!
# Scanning what was assembled

A text is assembled from literal text and from contents of tags, each of which is put between the
delimiters.  When no character of a delimiter occurs in them, a scan of the text takes it apart
again, whatever the contents are and however the two delimiters overlap.
-/

namespace Stencil

/-- A part that a text is assembled from. -/
inductive Segment where
  /-- Text that stands for itself. -/
  | literal (text : Text)
  /-- What is put between delimiters. -/
  | enclosed (content : Text)
deriving DecidableEq, Repr

namespace Segment

/-- A segment without delimiters. -/
def inner : Segment → Text
  | literal text => text
  | enclosed content => content

/-- The text that is written for a segment. -/
def text (delimiters : Delimiters) : Segment → Text
  | literal text => text
  | enclosed content => delimiters.opening ++ content ++ delimiters.closing

/-- The text of a list of segments. -/
def assemble (delimiters : Delimiters) (segments : List Segment) : Text :=
  segments.flatMap (text delimiters)

/-- The tag of a segment that is written at a position.  Literal text and blank contents have
none. -/
def tag? (delimiters : Delimiters) (start : Nat) : Segment → Option Tag
  | literal _ => none
  | enclosed content =>
    if content.all Text.isBlank then
      none
    else
      some ⟨Tag.Kind.ofContent (Text.trim content),
        ⟨start, start + Text.size (delimiters.opening ++ content ++ delimiters.closing)⟩⟩

/-- The tags of segments that are written one after the other from a position on. -/
def tags (delimiters : Delimiters) : Nat → List Segment → List Tag
  | _, [] => []
  | start, segment :: rest =>
    (segment.tag? delimiters start).toList ++
      tags delimiters (start + Text.size (segment.text delimiters)) rest

variable {delimiters : Delimiters}

/-- What a scan meets where a content is written is the tag of the content, if it has one. -/
theorem tag?_ofContent (start : Nat) (content : Text) :
    (Sighting.ofContent delimiters start content).tag? =
      (Segment.enclosed content).tag? delimiters start := by
  have blank : (Text.trim content).isEmpty = content.all Text.isBlank := by
    rw [Bool.eq_iff_iff, List.isEmpty_iff, Text.trim_eq_nil_iff, List.all_eq_true]
  rw [Sighting.ofContent, Segment.tag?, blank]
  split
  · rfl
  · simp only [Sighting.tag?, Delimiters.tagSpan, Text.size_append, Nat.add_assoc]

/-- A scan of an assembled text meets the tags of its segments and leaves no delimiter as text. -/
theorem exists_scans_assemble
    (usable : delimiters.opening ≠ [] ∧ delimiters.closing ≠ [])
    {segments : List Segment}
    (absent : ∀ segment ∈ segments, delimiters.areAbsentFrom segment.inner)
    (position : Nat) :
    ∃ sightings, Sighting.Scans delimiters position (assemble delimiters segments) sightings ∧
      sightings.filterMap Sighting.tag? = tags delimiters position segments ∧
      sightings.filterMap Sighting.loose? = [] := by
  induction segments generalizing position with
  | nil => exact ⟨[], .done (Text.cut?_nil usable.1), rfl, rfl⟩
  | cons segment segments inductionHypothesis =>
    have here := absent segment List.mem_cons_self
    obtain ⟨sightings, scans, sameTags, none⟩ := inductionHypothesis
      (fun other member => absent other (List.mem_cons_of_mem segment member))
      (position + Text.size (segment.text delimiters))
    rw [assemble, List.flatMap_cons]
    cases segment with
    | literal text =>
      have disjoint := (Delimiters.disjoint_of_areAbsentFrom here).1
      exact ⟨sightings, scans.literal_append usable.1 disjoint, sameTags, none⟩
    | enclosed content =>
      change delimiters.areAbsentFrom content = true at here
      have stop : position + Text.size ((Segment.enclosed content).text delimiters) =
          (delimiters.tagSpan position content).stop := by
        simp only [Segment.text, Delimiters.tagSpan, Text.size_append, Nat.add_assoc]
      rw [stop] at scans
      refine ⟨_, scans.content_append usable here, ?_, ?_⟩
      · rw [List.filterMap_cons, tag?_ofContent, sameTags, tags]
        cases (Segment.enclosed content).tag? delimiters position <;> rfl
      · rw [List.filterMap_cons_none (Sighting.loose?_ofContent _ _ _), none]

end Segment

namespace Scanner

/-- Scanning takes an assembled text apart.  There is one tag for each content that is not blank, in
the order of the contents, of the kind that the trimmed content says, and where the content and its
delimiters are written.  No delimiter is abandoned or left unterminated. -/
theorem yields_assemble
    {delimiters : Delimiters}
    (opens : delimiters.opening ≠ [])
    (closes : delimiters.closing ≠ [])
    {segments : List Segment}
    (absent : ∀ segment ∈ segments, delimiters.areAbsentFrom segment.inner) :
    (ofText delimiters (Segment.assemble delimiters segments)).Yields
      (Segment.tags delimiters 0 segments) [] none := by
  obtain ⟨sightings, scans, tags, none⟩ :=
    Segment.exists_scans_assemble ⟨opens, closes⟩ absent 0
  rw [scans.loose_eq_append, List.append_eq_nil_iff, Option.toList_eq_nil_iff] at none
  have scanned : (ofText delimiters (Segment.assemble delimiters segments)) =
      ⟨sightings, [], Option.none⟩ := by
    rw [ofText, Sighting.scan, dif_pos ⟨opens, closes⟩, scans.eq_scanFrom opens]
  have yields := yields_of_scans scans []
  rwa [tags, none.1, none.2, ← scanned] at yields

/-- A closing delimiter that starts with the opening one, next to another tag and to text of other
than one byte. -/
theorem yields_assemble_touching :
    let delimiters : Delimiters := ⟨"<".toList, "<<".toList⟩
    let segments : List Segment :=
      [.enclosed " é x ".toList, .enclosed "#if a".toList, .literal "é".toList,
        .enclosed " ".toList, .enclosed "else".toList]
    delimiters.opening ≠ [] ∧ delimiters.closing ≠ [] ∧
      (∀ segment ∈ segments, delimiters.areAbsentFrom segment.inner) ∧
      (ofText delimiters "< é x <<<#if a<<é< <<<else<<".toList).Yields
        [⟨.expression ["é".toList, "x".toList], ⟨0, 9⟩⟩,
          ⟨.opening "if".toList ["a".toList], ⟨9, 17⟩⟩, ⟨.otherwise, ⟨23, 30⟩⟩] [] none := by
  intro delimiters segments
  have opens : delimiters.opening ≠ [] := List.cons_ne_nil _ _
  have closes : delimiters.closing ≠ [] := List.cons_ne_nil _ _
  have absent : ∀ segment ∈ segments, delimiters.areAbsentFrom segment.inner := by decide
  have tags : Segment.tags delimiters 0 segments =
      [⟨.expression ["é".toList, "x".toList], ⟨0, 9⟩⟩,
        ⟨.opening "if".toList ["a".toList], ⟨9, 17⟩⟩, ⟨.otherwise, ⟨23, 30⟩⟩] := by
    decide +kernel
  refine ⟨opens, closes, absent, ?_⟩
  rw [← tags]
  exact yields_assemble opens closes absent

end Scanner
end Stencil
