import Stencil.Proofs.Text.Layout
import Stencil.Proofs.Text.Occurrence

/-!
# Spans that fit a text

Spans fit a text when each of them lies in it between two characters, and they come one after the
other.  These are the lists of spans that are laid out in the text.
-/

namespace Stencil
namespace Text

/-- Whether a position of a text lies between two of its characters or at one of its ends. -/
def IsBoundary (text : Text) (position : Nat) : Prop :=
  ∃ front back, text = front ++ back ∧ size front = position

/-- Whether spans lie in a text, between characters, in order and apart from each other. -/
structure Fits (text : Text) (spans : List Span) : Prop where
  ordered : ∀ span ∈ spans, span.start ≤ span.stop
  inside : ∀ span ∈ spans, span.stop ≤ size text
  boundaries : ∀ span ∈ spans, IsBoundary text span.start ∧ IsBoundary text span.stop
  apart : spans.Pairwise fun left right => left.stop ≤ right.start

theorem isBoundary_iff {text : Text} {position : Nat} :
    IsBoundary text position ↔ size (takeBytes position text) = position := by
  constructor
  · rintro ⟨front, back, rfl, rfl⟩
    rw [takeBytes_size_append]
  · exact fun fits => ⟨takeBytes position text, dropBytes position text,
      (takeBytes_append_dropBytes position text).symm, fits⟩

instance (text : Text) (position : Nat) : Decidable (IsBoundary text position) :=
  decidable_of_iff _ isBoundary_iff.symm

theorem isBoundary_size_append (front back : Text) : IsBoundary (front ++ back) (size front) :=
  ⟨front, back, rfl, rfl⟩

theorem IsBoundary.of_append
    {front rest : Text}
    {position : Nat}
    (boundary : IsBoundary (front ++ rest) position)
    (inside : position ≤ size front) : IsBoundary front position := by
  obtain ⟨before, after, split, rfl⟩ := boundary
  obtain ⟨middle, rfl, -⟩ := exists_append_of_size_le split.symm inside
  exact isBoundary_size_append before middle

namespace Fits

variable {front rest text : Text} {span : Span} {spans early late : List Span}

theorem tail (fits : Fits text (span :: spans)) : Fits text spans where
  ordered other member := fits.ordered other (List.mem_cons_of_mem span member)
  inside other member := fits.inside other (List.mem_cons_of_mem span member)
  boundaries other member := fits.boundaries other (List.mem_cons_of_mem span member)
  apart := fits.apart.tail

theorem left (fits : Fits text (early ++ late)) : Fits text early where
  ordered span member := fits.ordered span (List.mem_append_left late member)
  inside span member := fits.inside span (List.mem_append_left late member)
  boundaries span member := fits.boundaries span (List.mem_append_left late member)
  apart := (List.pairwise_append.mp fits.apart).1

theorem right (fits : Fits text (early ++ late)) : Fits text late where
  ordered span member := fits.ordered span (List.mem_append_right early member)
  inside span member := fits.inside span (List.mem_append_right early member)
  boundaries span member := fits.boundaries span (List.mem_append_right early member)
  apart := (List.pairwise_append.mp fits.apart).2.1

/-- Spans that fit a text and end before the end of a beginning fit the beginning. -/
theorem of_append
    (fits : Fits (front ++ rest) spans)
    (before : ∀ span ∈ spans, span.stop ≤ size front) : Fits front spans where
  ordered := fits.ordered
  inside := before
  boundaries span member := by
    have ordered := fits.ordered span member
    have stop := before span member
    obtain ⟨startBoundary, stopBoundary⟩ := fits.boundaries span member
    exact ⟨startBoundary.of_append (Nat.le_trans ordered stop), stopBoundary.of_append stop⟩
  apart := fits.apart

/-- Spans that fit a text and lie behind a beginning of it are laid out in the rest. -/
theorem hasSpans_of_append
    (fits : Fits (front ++ rest) spans)
    (behind : ∀ span ∈ spans, size front ≤ span.start) : HasSpans (size front) rest spans := by
  induction spans generalizing front rest with
  | nil => exact .nil
  | cons span spans inductionHypothesis =>
    obtain ⟨⟨upTo, onward, splitStart, start⟩, ⟨through, after, splitStop, stop⟩⟩ :=
      fits.boundaries span List.mem_cons_self
    have ordered := fits.ordered span List.mem_cons_self
    have reached := behind span List.mem_cons_self
    rw [← start] at reached ordered
    rw [← stop] at ordered
    obtain ⟨before, rfl, splitRest⟩ := exists_append_of_size_le splitStart reached
    obtain ⟨old, rfl, splitOnward⟩ :=
      exists_append_of_size_le (splitStart.symm.trans splitStop) ordered
    have place : span = ⟨size front + size before, size front + size before + size old⟩ := by
      rw [size_append] at start
      rw [size_append, size_append] at stop
      exact congr (congrArg Span.mk start.symm) stop.symm
    have apart := List.pairwise_cons.mp fits.apart
    rw [splitStop] at fits
    have later := inductionHypothesis fits.tail fun other member => stop ▸ apart.1 other member
    rw [size_append, size_append] at later
    rw [splitRest, splitOnward, ← List.append_assoc, place]
    exact .cons before old later

end Fits

/-- Spans that are laid out in a text come one after the other. -/
theorem HasSpans.apart
    {position : Nat}
    {text : Text}
    {spans : List Span}
    (laid : HasSpans position text spans) :
    spans.Pairwise fun left right => left.stop ≤ right.start := by
  induction laid with
  | nil => exact .nil
  | cons before old later inductionHypothesis =>
    exact .cons (fun span member => (later.bounds span member).1) inductionHypothesis

theorem fits_iff_hasSpans {text : Text} {spans : List Span} :
    Fits text spans ↔ HasSpans 0 text spans := by
  constructor
  · exact fun fits => @Fits.hasSpans_of_append [] text spans fits fun _ _ => Nat.zero_le _
  · intro laid
    refine ⟨fun span member => (laid.bounds span member).2.1, fun span member => ?_,
      fun span member => ?_, laid.apart⟩
    · rw [← Nat.zero_add (size text)]
      exact (laid.bounds span member).2.2
    · obtain ⟨early, late, rfl⟩ := List.append_of_mem member
      obtain ⟨before, old, rest, rfl, rfl, -⟩ := laid.exists_split
      dsimp only
      rw [Nat.zero_add, ← size_append]
      refine ⟨?_, isBoundary_size_append (before ++ old) rest⟩
      rw [List.append_assoc]
      exact isBoundary_size_append before (old ++ rest)

end Text
end Stencil
