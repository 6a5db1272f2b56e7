import Stencil.Proofs.Tag.Content
import Stencil.Proofs.Tag.Exhaustion
import Stencil.Proofs.Tag.Locality
import Stencil.Proofs.Text.Occurrence

/-!
# An account of all opening delimiters

A scan meets nothing that is not there, and it passes over nothing.  Whatever it meets stands in the
text as it is described, and every occurrence of the opening delimiter lies in something that was
met.  Delimiters may overlap each other and themselves, so occurrences are described by positions
and not by what is left of a text without them.
-/

namespace Stencil

open Text (OccursAt)

/-- Whether a position lies in a span. -/
def Span.Covers (span : Span) (position : Nat) : Prop :=
  span.start ≤ position ∧ position < span.stop

namespace Delimiters

/-- Whether a span of a text is a content between delimiters, where the opening delimiter does not
occur in the content and the closing delimiter occurs behind it for the first time. -/
structure Encloses (delimiters : Delimiters) (text content : Text) (span : Span) : Prop where
  span_eq : span = delimiters.tagSpan span.start content
  occurs : OccursAt (delimiters.opening ++ content ++ delimiters.closing) text span.start
  single : ∀ position, ¬ OccursAt delimiters.opening content position
  first : ∀ position, OccursAt delimiters.closing (content ++ delimiters.closing) position →
    Text.size content ≤ position

/-- Whether an opening delimiter of a text is opened again before it is closed.  Behind it, another
one ends before the first closing delimiter starts. -/
def ReopensAt (delimiters : Delimiters) (text : Text) (start : Nat) : Prop :=
  OccursAt delimiters.opening text start ∧
    ∃ again close, start + Text.size delimiters.opening ≤ again ∧
      OccursAt delimiters.opening text again ∧
      again + Text.size delimiters.opening ≤ close ∧
      OccursAt delimiters.closing text close ∧
      ∀ position, start + Text.size delimiters.opening ≤ position →
        OccursAt delimiters.closing text position → close ≤ position

/-- Whether an opening delimiter of a text has no closing delimiter behind it. -/
def NeverClosesAt (delimiters : Delimiters) (text : Text) (start : Nat) : Prop :=
  OccursAt delimiters.opening text start ∧
    ∀ position, OccursAt delimiters.closing text position →
      position < start + Text.size delimiters.opening

/-- What tags and delimiters left as text have to be for all opening delimiters of a text to be
accounted for. -/
structure Account
    (delimiters : Delimiters)
    (text : Text)
    (tags : List Tag)
    (abandoned : List Nat)
    (unterminated? : Option Nat) : Prop where
  /-- The tags lie one after the other. -/
  ordered : tags.Pairwise fun left right => left.span.stop ≤ right.span.start
  /-- A tag stands between two delimiters and is of the kind that its content says. -/
  enclosed : ∀ tag ∈ tags, ∃ content, delimiters.Encloses text content tag.span ∧
    Text.trim content ≠ [] ∧ tag.kind = Tag.Kind.ofContent (Text.trim content)
  increasing : abandoned.Pairwise (· < ·)
  /-- An abandoned delimiter is opened again before it is closed. -/
  reopened : ∀ start ∈ abandoned, delimiters.ReopensAt text start
  /-- An abandoned delimiter lies apart from all tags, as a whole. -/
  outside : ∀ start ∈ abandoned, ∀ tag ∈ tags,
    start + Text.size delimiters.opening ≤ tag.span.start ∨ tag.span.stop ≤ start
  /-- A delimiter that is not terminated is never closed, and all tags end before it. -/
  unterminated : ∀ start ∈ unterminated?, delimiters.NeverClosesAt text start ∧
    ∀ tag ∈ tags, tag.span.stop ≤ start
  /-- An opening delimiter lies in a tag, in a blank tag or in an abandoned delimiter, or it does
  not lie before the one that is not terminated. -/
  complete : ∀ position, OccursAt delimiters.opening text position →
    (∃ tag ∈ tags, tag.span.Covers position) ∨
    (∃ content span, delimiters.Encloses text content span ∧
      (∀ character ∈ content, Text.isBlank character) ∧ span.Covers position) ∨
    (∃ start ∈ abandoned,
      start ≤ position ∧ position < start + Text.size delimiters.opening) ∨
    ∃ start ∈ unterminated?, start ≤ position

section Cutting

variable
  {delimiters : Delimiters}
  {front content inside after : Text}

/-- A closing delimiter behind an opening one is a closing delimiter of what is inside. -/
theorem exists_inset_of_closing
    {position : Nat}
    (closes : OccursAt delimiters.closing (front ++ delimiters.opening ++ inside) position)
    (behind : Text.size front + Text.size delimiters.opening ≤ position) :
    ∃ inset, OccursAt delimiters.closing inside inset ∧
      position = Text.size front + Text.size delimiters.opening + inset := by
  rw [← Text.size_append] at behind ⊢
  exact closes.of_append behind

theorem encloses_of_cut?
    (closed : Text.cut? delimiters.closing inside = some (content, after))
    (single : Text.cut? delimiters.opening content = none) :
    delimiters.Encloses (front ++ delimiters.opening ++ inside) content
      (delimiters.tagSpan (Text.size front) content) where
  span_eq := rfl
  occurs := by
    refine ⟨front, after, ?_, rfl⟩
    rw [Text.eq_append_of_cut? closed]
    simp only [List.append_assoc]
  single := Text.cut?_eq_none_iff.mp single
  first := by
    intro position closes
    have shortened : Text.cut? delimiters.closing (content ++ delimiters.closing) =
        some (content, []) := by
      rw [← List.append_nil (content ++ delimiters.closing)]
      exact Text.cut?_of_append closed
    exact closes.size_le_of_cut? shortened

/-- The closing delimiter of a tag occurs in it. -/
theorem Encloses.exists_closing
    {text : Text}
    {span : Span}
    (encloses : delimiters.Encloses text content span) :
    ∃ position, OccursAt delimiters.closing text position ∧ span.start ≤ position := by
  obtain ⟨before, after, split, place⟩ := encloses.occurs
  refine ⟨Text.size (before ++ delimiters.opening ++ content), ⟨_, after, ?_, rfl⟩, ?_⟩
  · rw [split]
    simp only [List.append_assoc]
  · simp only [Text.size_append]
    omega

theorem reopensAt_of_cut?
    {skipped more : Text}
    (closed : Text.cut? delimiters.closing inside = some (content, after))
    (again : Text.cut? delimiters.opening content = some (skipped, more)) :
    delimiters.ReopensAt (front ++ delimiters.opening ++ inside) (Text.size front) := by
  have contentSplit := Text.eq_append_of_cut? again
  have insideSplit := Text.eq_append_of_cut? closed
  refine ⟨Text.occursAt_append front _ inside,
    Text.size (front ++ delimiters.opening ++ skipped),
    Text.size (front ++ delimiters.opening ++ content), ?_, ?_, ?_, ?_, ?_⟩
  · simp only [Text.size_append]
    omega
  · refine ⟨_, more ++ delimiters.closing ++ after, ?_, rfl⟩
    rw [insideSplit, contentSplit]
    simp only [List.append_assoc]
  · simp only [contentSplit, Text.size_append]
    omega
  · refine ⟨_, after, ?_, rfl⟩
    rw [insideSplit]
    simp only [List.append_assoc]
  · intro position behind closes
    obtain ⟨inset, closesInside, rfl⟩ := exists_inset_of_closing closes behind
    have least := closesInside.size_le_of_cut? closed
    simp only [Text.size_append]
    omega

theorem neverClosesAt_of_cut?
    (absent : Text.cut? delimiters.closing inside = none) :
    delimiters.NeverClosesAt (front ++ delimiters.opening ++ inside) (Text.size front) := by
  refine ⟨Text.occursAt_append front _ inside, fun position closes => ?_⟩
  refine Nat.lt_of_not_le fun behind => ?_
  obtain ⟨inset, closesInside, -⟩ := exists_inset_of_closing closes behind
  exact Text.cut?_eq_none_iff.mp absent inset closesInside

end Cutting

end Delimiters

namespace Sighting

/-- Whether a text is at a place as a sighting says. -/
def StandsIn (delimiters : Delimiters) (text : Text) : Sighting → Prop
  | .tag found => ∃ content, delimiters.Encloses text content found.span ∧
      Text.trim content ≠ [] ∧ found.kind = Tag.Kind.ofContent (Text.trim content)
  | .blank span => ∃ content, delimiters.Encloses text content span ∧ Text.trim content = []
  | .reopened start => delimiters.ReopensAt text start
  | .unterminated start => delimiters.NeverClosesAt text start

/-- Whether a sighting accounts for an opening delimiter at a position.  After a delimiter that
never closes, there is nothing else to meet. -/
def Covers (delimiters : Delimiters) (position : Nat) : Sighting → Prop
  | .unterminated start => start ≤ position
  | sighting => (sighting.span delimiters).Covers position

variable
  {delimiters : Delimiters}
  {position : Nat}
  {text before inside content after : Text}
  {sightings : List Sighting}

theorem covers_ofContent {start : Nat} :
    (ofContent delimiters start content).Covers delimiters position ↔
      (delimiters.tagSpan start content).Covers position := by
  unfold ofContent
  split <;> rfl

theorem standsIn_ofContent
    {start : Nat}
    (encloses : delimiters.Encloses text content (delimiters.tagSpan start content)) :
    (ofContent delimiters start content).StandsIn delimiters text := by
  unfold ofContent
  split
  · next blank => exact ⟨content, encloses, List.isEmpty_iff.mp blank⟩
  · next nonempty =>
    exact ⟨content, encloses, fun blank => nonempty (List.isEmpty_iff.mpr blank), rfl⟩

namespace Scans

/-- Whatever a scan meets stands in the text. -/
theorem standsIn
    (scans : Scans delimiters position text sightings)
    {front : Text}
    (place : Text.size front = position) :
    ∀ sighting ∈ sightings, sighting.StandsIn delimiters (front ++ text) := by
  have whole {front text before inside : Text}
      (opened : Text.cut? delimiters.opening text = some (before, inside)) :
      front ++ text = front ++ before ++ delimiters.opening ++ inside := by
    rw [Text.eq_append_of_cut? opened]
    simp only [List.append_assoc]
  induction scans generalizing front with
  | done absent => exact fun _ member => absurd member List.not_mem_nil
  | @unclosed position text before inside opened absent =>
    rw [whole opened, ← place, ← Text.size_append]
    exact List.forall_mem_singleton.mpr (Delimiters.neverClosesAt_of_cut? absent)
  | @reopened position text before inside content after skipped more sightings opened closed again
      rest inductionHypothesis =>
    have later := @inductionHypothesis (front ++ before ++ delimiters.opening ++ skipped)
      (by simp only [Text.size_append, place])
    have split : front ++ before ++ delimiters.opening ++ inside =
        front ++ before ++ delimiters.opening ++ skipped ++
          (delimiters.opening ++ more ++ delimiters.closing ++ after) := by
      rw [eq_append_of_again closed again, List.append_assoc _ skipped]
    rw [← split] at later
    rw [whole opened, ← place, ← Text.size_append]
    exact List.forall_mem_cons.mpr ⟨Delimiters.reopensAt_of_cut? closed again, later⟩
  | @closed position text before inside content after sightings opened closed single rest
      inductionHypothesis =>
    have later := @inductionHypothesis
      (front ++ before ++ delimiters.opening ++ content ++ delimiters.closing)
      (by simp only [Text.size_append, place, Delimiters.tagSpan])
    have split : front ++ before ++ delimiters.opening ++ inside =
        front ++ before ++ delimiters.opening ++ content ++ delimiters.closing ++ after := by
      rw [Text.eq_append_of_cut? closed]
      simp only [List.append_assoc]
    rw [← split] at later
    rw [whole opened, ← place, ← Text.size_append]
    exact List.forall_mem_cons.mpr
      ⟨standsIn_ofContent (Delimiters.encloses_of_cut? closed single), later⟩

/-- A scan passes over no opening delimiter. -/
theorem exists_covers
    (scans : Scans delimiters position text sightings)
    {inset : Nat}
    (occurs : OccursAt delimiters.opening text inset) :
    ∃ sighting ∈ sightings, sighting.Covers delimiters (position + inset) := by
  induction scans generalizing inset with
  | done absent => exact absurd occurs (Text.cut?_eq_none_iff.mp absent inset)
  | @unclosed position text before inside opened absent =>
    have least := occurs.size_le_of_cut? opened
    exact ⟨_, List.mem_cons_self, Nat.add_le_add_left least position⟩
  | @reopened position text before inside content after skipped more sightings opened closed again
      rest inductionHypothesis =>
    have least := occurs.size_le_of_cut? opened
    rcases Nat.lt_or_ge inset (Text.size (before ++ delimiters.opening)) with inIt | behind
    · rw [Text.size_append] at inIt
      refine ⟨_, List.mem_cons_self, ?_, ?_⟩
      · exact Nat.add_le_add_left least position
      · simp only [span]
        omega
    -- The next opening delimiter behind it is the one where the scan goes on.
    · rw [Text.eq_append_of_cut? opened] at occurs
      obtain ⟨depth, occursInside, rfl⟩ := occurs.of_append behind
      have againInside := Text.cut?_append_of_some again (delimiters.closing ++ after)
      rw [← List.append_assoc, ← Text.eq_append_of_cut? closed] at againInside
      have leastInside := occursInside.size_le_of_cut? againInside
      rw [eq_append_of_again closed again] at occursInside
      obtain ⟨further, occursRest, rfl⟩ := occursInside.of_append leastInside
      obtain ⟨sighting, met, covers⟩ := inductionHypothesis occursRest
      refine ⟨sighting, List.mem_cons_of_mem _ met, ?_⟩
      simpa only [Text.size_append, Nat.add_assoc] using covers
  | @closed position text before inside content after sightings opened closed single rest
      inductionHypothesis =>
    have least := occurs.size_le_of_cut? opened
    rcases Nat.lt_or_ge inset
      (Text.size (before ++ delimiters.opening ++ content ++ delimiters.closing)) with inIt | behind
    · simp only [Text.size_append] at inIt
      refine ⟨_, List.mem_cons_self, covers_ofContent.mpr ⟨?_, ?_⟩⟩
      · exact Nat.add_le_add_left least position
      · simp only [Delimiters.tagSpan]
        omega
    · rw [eq_append_of_closed opened closed] at occurs
      obtain ⟨further, occursRest, rfl⟩ := occurs.of_append behind
      obtain ⟨sighting, met, covers⟩ := inductionHypothesis occursRest
      refine ⟨sighting, List.mem_cons_of_mem _ met, ?_⟩
      simpa only [Text.size_append, Delimiters.tagSpan, Nat.add_assoc] using covers

/-- There is only one delimiter that never closes. -/
theorem findSome?_unterminated?
    (scans : Scans delimiters position text sightings)
    {start : Nat}
    (met : .unterminated start ∈ sightings) :
    sightings.findSome? unterminated? = some start := by
  induction scans with
  | done absent => exact absurd met List.not_mem_nil
  | unclosed opened absent => exact congrArg unterminated? (List.mem_singleton.mp met).symm
  | reopened opened closed again rest inductionHypothesis =>
    exact inductionHypothesis ((List.mem_cons.mp met).resolve_left Sighting.noConfusion)
  | closed opened closed single rest inductionHypothesis =>
    rw [List.findSome?_cons, unterminated?_ofContent]
    refine inductionHypothesis ((List.mem_cons.mp met).resolve_left fun same => ?_)
    have none := congrArg unterminated? same
    rw [unterminated?_ofContent] at none
    exact nomatch none

end Scans

theorem eq_reopened_of_reopened?
    {sighting : Sighting}
    {start : Nat}
    (seen : sighting.reopened? = some start) : sighting = .reopened start := by
  cases sighting with
  | reopened position => rw [Option.some.inj seen]
  | _ => exact nomatch seen

theorem eq_unterminated_of_unterminated?
    {sighting : Sighting}
    {start : Nat}
    (seen : sighting.unterminated? = some start) : sighting = .unterminated start := by
  cases sighting with
  | unterminated position => rw [Option.some.inj seen]
  | _ => exact nomatch seen

/-- What a scan meets is an account of all opening delimiters. -/
theorem Scans.account
    (usable : delimiters.opening ≠ [])
    (scans : Scans delimiters 0 text sightings) :
    delimiters.Account text (sightings.filterMap tag?) (sightings.filterMap reopened?)
      (sightings.findSome? unterminated?) := by
  have inOrder := scans.inOrder usable
  have stands : ∀ sighting ∈ sightings, sighting.StandsIn delimiters ([] ++ text) :=
    scans.standsIn Text.size_nil
  rw [List.nil_append] at stands
  have isTag {found : Tag} (member : found ∈ sightings.filterMap tag?) :
      .tag found ∈ sightings := by
    obtain ⟨sighting, met, seen⟩ := List.mem_filterMap.mp member
    exact eq_tag_of_tag? seen ▸ met
  have isReopened {start : Nat} (member : start ∈ sightings.filterMap reopened?) :
      .reopened start ∈ sightings := by
    obtain ⟨sighting, met, seen⟩ := List.mem_filterMap.mp member
    exact eq_reopened_of_reopened? seen ▸ met
  refine
    { ordered := (scans.ordered usable).2
      enclosed := fun found member => stands _ (isTag member)
      increasing := ?increasing
      reopened := fun start member => stands _ (isReopened member)
      outside := ?outside
      unterminated := ?unterminated
      complete := ?complete }
  case increasing =>
    have increasing := scans.loose_increasing usable
    rw [scans.loose_eq_append] at increasing
    exact (List.pairwise_append.mp increasing).1
  case outside =>
    intro start member found memberTag
    exact (inOrder.apart_of_mem (isTag memberTag) (isReopened member) Sighting.noConfusion).symm
  case unterminated =>
    intro start member
    obtain ⟨sighting, met, seen⟩ := List.exists_of_findSome?_eq_some member
    obtain rfl := eq_unterminated_of_unterminated? seen
    refine ⟨stands _ met, fun found memberTag => ?_⟩
    -- A tag behind it would close it.
    obtain ⟨content, encloses, -⟩ := stands _ (isTag memberTag)
    obtain ⟨position, closing, inside⟩ := encloses.exists_closing
    have early := (stands _ met).2 position closing
    have apart := inOrder.apart_of_mem (isTag memberTag) met Sighting.noConfusion
    simp only [span] at apart
    omega
  case complete =>
    intro position occurs
    obtain ⟨sighting, met, covers⟩ := scans.exists_covers occurs
    rw [Nat.zero_add] at covers
    cases sighting with
    | tag found => exact .inl ⟨found, List.mem_filterMap.mpr ⟨_, met, rfl⟩, covers⟩
    | blank span =>
      obtain ⟨content, encloses, blank⟩ := stands _ met
      exact .inr (.inl ⟨content, span, encloses, Text.trim_eq_nil_iff.mp blank, covers⟩)
    | reopened start =>
      exact .inr (.inr (.inl ⟨start, List.mem_filterMap.mpr ⟨_, met, rfl⟩, covers⟩))
    | unterminated start =>
      exact .inr (.inr (.inr ⟨start, scans.findSome?_unterminated? met, covers⟩))

end Sighting

namespace Scanner

/-- A scan gives an account of all opening delimiters of a text.  It hands out finitely many tags,
one after the other, each of them with its content between two delimiters.  The delimiters that it
abandons are opened again before they are closed, the one that it leaves unterminated is never
closed, and all of them lie apart from the tags.  And every opening delimiter lies in a tag, in a
blank tag or in an abandoned delimiter, or does not lie before the one that is left unterminated. -/
theorem accounts_for_openings
    {delimiters : Delimiters}
    (opens : delimiters.opening ≠ [])
    (closes : delimiters.closing ≠ [])
    (text : Text) :
    let sightings := Sighting.scan delimiters 0 text
    let tags := sightings.filterMap Sighting.tag?
    let abandoned := sightings.filterMap Sighting.reopened?
    let unterminated? := sightings.findSome? Sighting.unterminated?
    (ofText delimiters text).Yields tags abandoned unterminated? ∧
      delimiters.Account text tags abandoned unterminated? := by
  have scans : Sighting.Scans delimiters 0 text (Sighting.scan delimiters 0 text) := by
    rw [Sighting.scan, dif_pos ⟨opens, closes⟩]
    exact Sighting.scans_scanFrom opens 0 text
  exact ⟨yields_ofText delimiters text, scans.account opens⟩

/-- An opening delimiter may overlap itself and the tag that it starts. -/
theorem accounts_for_openings_overlapping :
    let delimiters : Delimiters := ⟨"[[".toList, "]".toList⟩
    let text := "[[x[[[y]] [[ ] [[z".toList
    let tags : List Tag := [⟨.expression ["[y".toList], ⟨3, 8⟩⟩]
    delimiters.opening ≠ [] ∧ delimiters.closing ≠ [] ∧
      (ofText delimiters text).Yields tags [0] (some 15) ∧
      delimiters.Account text tags [0] (some 15) := by
  intro delimiters text tags
  have opens : delimiters.opening ≠ [] := List.cons_ne_nil _ _
  have closes : delimiters.closing ≠ [] := List.cons_ne_nil _ _
  have sightings : Sighting.scan delimiters 0 text =
      [.reopened 0, .tag ⟨.expression ["[y".toList], ⟨3, 8⟩⟩, .blank ⟨10, 14⟩,
        .unterminated 15] := by
    decide +kernel
  have account := accounts_for_openings opens closes text
  rw [sightings] at account
  exact ⟨opens, closes, account⟩

/-- Opening delimiters that are never closed lie in no tag and in no abandoned delimiter. -/
theorem unterminated_openings_left_out :
    let delimiters : Delimiters := ⟨"[[".toList, "]]".toList⟩
    let text := "[[[".toList
    let tags : List Tag := []
    let abandoned : List Nat := []
    (ofText delimiters text).Yields tags abandoned (some 0) ∧
      ¬ ∀ position, OccursAt delimiters.opening text position →
        (∃ tag ∈ tags, tag.span.Covers position) ∨
        (∃ content span, delimiters.Encloses text content span ∧
          (∀ character ∈ content, Text.isBlank character) ∧ span.Covers position) ∨
        ∃ start ∈ abandoned,
          start ≤ position ∧ position < start + Text.size delimiters.opening := by
  intro delimiters text tags abandoned
  have sightings : Sighting.scan delimiters 0 text = [.unterminated 0] := by decide +kernel
  have yields := yields_ofText delimiters text
  rw [sightings] at yields
  refine ⟨yields, fun complete => ?_⟩
  have unclosed : Text.cut? delimiters.closing text = none := by decide
  have nowhere := Text.cut?_eq_none_iff.mp unclosed
  rcases complete 0 ⟨[], "[".toList, rfl, rfl⟩ with
    ⟨tag, none, -⟩ | ⟨content, span, encloses, -⟩ | ⟨start, none, -⟩
  · exact List.not_mem_nil none
  · obtain ⟨position, closing, -⟩ := encloses.exists_closing
    exact nowhere position closing
  · exact List.not_mem_nil none

end Scanner
end Stencil
