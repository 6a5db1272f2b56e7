import Stencil.Proofs.Text.Fitting

/-!
# Editing a text in place

A text that is edited in place goes through a series of states: the text as it is by now, and how
far what follows the last edit has moved.  When the spans of the edits fit the text, every edit
finds its span, moved by the shift, in the text as it is by then.
-/

namespace Stencil

namespace Text

/-- A text from a position on with edits: what stands before the first span, its replacement, what
stands before the next span, and so on to the end of the text. -/
def patch (text : Text) (position : Nat) : List Edit → Text
  | [] => slice text position (size text)
  | edit :: edits =>
    slice text position edit.span.start ++ edit.replacement ++ patch text edit.span.stop edits

/-- Whether a range of a text lies in it, between characters. -/
structure HasRange (text : Text) (start stop : Int) : Prop where
  nonnegative : 0 ≤ start
  ordered : start ≤ stop
  inside : stop ≤ size text
  startBoundary : IsBoundary text start.toNat
  stopBoundary : IsBoundary text stop.toNat

theorem slice_append_size (front back : Text) :
    slice (front ++ back) (size front) (size (front ++ back)) = back := by
  have whole := slice_append front back []
  rwa [List.append_nil, ← size_append] at whole

theorem hasRange_append (front middle back : Text) :
    HasRange (front ++ middle ++ back) (size front) (size (front ++ middle)) where
  nonnegative := Int.natCast_nonneg _
  ordered := by
    rw [size_append]
    omega
  inside := by
    simp only [size_append]
    omega
  startBoundary := by
    rw [List.append_assoc]
    exact isBoundary_size_append front (middle ++ back)
  stopBoundary := isBoundary_size_append (front ++ middle) back

end Text

/-- How far edits in place have come. -/
structure Splicing where
  /-- How far the edits made so far moved what follows. -/
  shift : Int
  /-- The text with the edits made so far. -/
  text : Text

namespace Splicing

/-- Make one edit in place. -/
def make (state : Splicing) (edit : Edit) : Splicing where
  shift := state.shift + (Text.size edit.replacement - edit.span.size)
  text :=
    Text.replaceRange state.text (edit.span.start + state.shift).toNat
      (edit.span.stop + state.shift).toNat edit.replacement

/-- Making edits in place goes through the states one after the other. -/
theorem spliceFrom_eq_foldl (state : Splicing) (edits : List Edit) :
    Text.spliceFrom state.shift state.text edits = (edits.foldl make state).text := by
  induction edits generalizing state with
  | nil => rfl
  | cons edit edits inductionHypothesis => exact inductionHypothesis (state.make edit)

/-- Whether a text up to a position has become what is done, and what follows is as it was. -/
structure Reaches
    (state : Splicing)
    (done : Text)
    (position : Nat)
    (rest : Text) : Prop where
  text_eq : state.text = done ++ rest
  shift_eq : state.shift = Text.size done - position

namespace Reaches

variable {state : Splicing} {done before old rest replacement : Text} {position : Nat}

/-- The span of the next edit, moved by the shift, lies behind what is done. -/
theorem hasRange
    (reaches : state.Reaches done position (before ++ old ++ rest)) :
    Text.HasRange state.text ((position + Text.size before : Nat) + state.shift)
      ((position + Text.size before + Text.size old : Nat) + state.shift) := by
  have start : ((position + Text.size before : Nat) : Int) + state.shift =
      Text.size (done ++ before) := by
    rw [reaches.shift_eq, Text.size_append]
    omega
  have stop : ((position + Text.size before + Text.size old : Nat) : Int) + state.shift =
      Text.size (done ++ before ++ old) := by
    rw [reaches.shift_eq, Text.size_append, Text.size_append]
    omega
  rw [start, stop, reaches.text_eq, ← List.append_assoc, ← List.append_assoc]
  exact Text.hasRange_append (done ++ before) old rest

/-- Making the next edit adds to what is done and leaves what follows as it was. -/
theorem make
    (reaches : state.Reaches done position (before ++ old ++ rest))
    (replacement : Text) :
    (state.make ⟨⟨position + Text.size before, position + Text.size before + Text.size old⟩,
      replacement⟩).Reaches (done ++ before ++ replacement)
        (position + Text.size before + Text.size old) rest := by
  have start : ((position + Text.size before : Nat) + state.shift).toNat =
      Text.size (done ++ before) := by
    rw [reaches.shift_eq, Text.size_append]
    omega
  have stop : ((position + Text.size before + Text.size old : Nat) + state.shift).toNat =
      Text.size (done ++ before) + Text.size old := by
    rw [reaches.shift_eq, Text.size_append]
    omega
  constructor
  · dsimp only [Splicing.make]
    rw [start, stop, reaches.text_eq, ← List.append_assoc, ← List.append_assoc,
      Text.replaceRange_append]
  · dsimp only [Splicing.make, Span.size]
    rw [reaches.shift_eq, Text.size_append, Text.size_append]
    omega

end Reaches

/-- Every edit finds its span in the text as it is by then. -/
theorem hasRange_of_reaches
    {state : Splicing}
    {done rest : Text}
    {position : Nat}
    {early : List Edit}
    {span : Span}
    {late : List Span}
    (reaches : state.Reaches done position rest)
    (laid : Text.HasSpans position rest (early.map Edit.span ++ span :: late)) :
    let current := early.foldl Splicing.make state
    Text.HasRange current.text (span.start + current.shift) (span.stop + current.shift) := by
  induction early generalizing state done rest position with
  | nil =>
    obtain _ | ⟨before, old, later⟩ := laid
    exact reaches.hasRange
  | cons edit early inductionHypothesis =>
    obtain ⟨span, replacement⟩ := edit
    obtain _ | ⟨before, old, later⟩ := laid
    exact inductionHypothesis (reaches.make replacement) later

end Splicing

namespace Text

/-- Weaving edits into the rest of a text patches the text from there on. -/
theorem HasSpans.weave_eq_patch
    {rest : Text}
    {edits : List Edit}
    (front : Text)
    (laid : HasSpans (size front) rest (edits.map Edit.span)) :
    weave (size front) rest edits = patch (front ++ rest) (size front) edits := by
  induction edits generalizing front rest with
  | nil => exact (slice_append_size front rest).symm
  | cons edit edits inductionHypothesis =>
    obtain ⟨span, replacement⟩ := edit
    obtain _ | @⟨_, before, old, behind, _, later⟩ := laid
    have whole : front ++ (before ++ old ++ behind) = front ++ before ++ old ++ behind := by
      simp only [List.append_assoc]
    have stop : size front + size before + size old = size (front ++ before ++ old) := by
      simp only [size_append]
    rw [weave_cons, patch, whole]
    dsimp only
    rw [stop] at later ⊢
    rw [inductionHypothesis (front ++ before ++ old) later, List.append_assoc _ old,
      slice_append]

/-- Edits whose spans fit a text patch it. -/
theorem Fits.splice_eq_patch
    {text : Text}
    {edits : List Edit}
    (fits : Fits text (edits.map Edit.span)) : splice text edits = patch text 0 edits := by
  have laid := fits_iff_hasSpans.mp fits
  rw [laid.splice_eq_weave]
  exact laid.weave_eq_patch []

/-- Edits of a beginning and of an end of a text leave what is between them as it is. -/
theorem HasSpans.weave_between
    {position : Nat}
    {front back : Text}
    {edits later : List Edit}
    (kept : Text)
    (laid : HasSpans position front (edits.map Edit.span))
    (laidLater : HasSpans (position + size (front ++ kept)) back (later.map Edit.span)) :
    weave position (front ++ kept ++ back) (edits ++ later) =
      weave position front edits ++ kept ++ weave (position + size (front ++ kept)) back later := by
  induction edits generalizing position front with
  | nil =>
    cases later with
    | nil => rfl
    | cons edit later =>
      obtain ⟨span, replacement⟩ := edit
      obtain _ | ⟨before, old, behind⟩ := laidLater
      have start : position + size (front ++ kept) + size before =
          position + size (front ++ kept ++ before) := by
        rw [size_append (front ++ kept), Nat.add_assoc]
      rw [weave_cons, start, ← List.append_assoc, ← List.append_assoc, List.nil_append, weave_cons,
        weave]
      simp only [List.append_assoc]
  | cons edit edits inductionHypothesis =>
    obtain ⟨span, replacement⟩ := edit
    obtain _ | @⟨_, before, old, rest, _, laidRest⟩ := laid
    have place : position + size (before ++ old ++ rest ++ kept) =
        position + size before + size old + size (rest ++ kept) := by
      simp only [size_append]
      omega
    have whole :
        before ++ old ++ rest ++ kept ++ back = before ++ old ++ (rest ++ kept ++ back) := by
      simp only [List.append_assoc]
    rw [place] at laidLater ⊢
    rw [whole, List.cons_append, weave_cons, weave_cons, inductionHypothesis laidRest laidLater]
    simp only [List.append_assoc]

/-- Edits that lie before a span of a text or behind it leave the span as it is. -/
theorem Fits.splice_eq_of_apart
    {text : Text}
    {span : Span}
    {edits later : List Edit}
    (fits : Fits text ((edits ++ later).map Edit.span))
    (ordered : span.start ≤ span.stop)
    (startBoundary : IsBoundary text span.start)
    (stopBoundary : IsBoundary text span.stop)
    (before : ∀ edit ∈ edits, edit.span.stop ≤ span.start)
    (behind : ∀ edit ∈ later, span.stop ≤ edit.span.start) :
    splice text (edits ++ later) =
      patch (slice text 0 span.start) 0 edits ++ slice text span.start span.stop ++
        patch text span.stop later := by
  obtain ⟨start, stop⟩ := span
  obtain ⟨front, rest, rfl, rfl⟩ := startBoundary
  obtain ⟨through, back, split, rfl⟩ := stopBoundary
  obtain ⟨kept, rfl, rfl⟩ := exists_append_of_size_le split ordered
  rw [← List.append_assoc] at fits ⊢
  have first : slice (front ++ kept ++ back) 0 (size front) = front := by
    have whole := slice_append [] front (kept ++ back)
    rwa [List.nil_append, size_nil, Nat.zero_add, ← List.append_assoc] at whole
  have second : slice (front ++ kept ++ back) (size front) (size (front ++ kept)) = kept := by
    rw [size_append, slice_append]
  have laid := fits_iff_hasSpans.mp fits
  rw [List.map_append] at fits
  have laidEdits : HasSpans 0 front (edits.map Edit.span) := by
    have fitsEdits := fits.left
    rw [List.append_assoc] at fitsEdits
    exact fits_iff_hasSpans.mp (fitsEdits.of_append (List.forall_mem_map.mpr before))
  have laidLater : HasSpans (size (front ++ kept)) back (later.map Edit.span) :=
    fits.right.hasSpans_of_append (List.forall_mem_map.mpr behind)
  have woven := laidEdits.weave_between kept (by rwa [Nat.zero_add])
  dsimp only
  rw [laid.splice_eq_weave, woven, Nat.zero_add, laidLater.weave_eq_patch, first, second,
    ← laidEdits.splice_eq_weave, (fits_iff_hasSpans.mpr laidEdits).splice_eq_patch]

end Text
end Stencil
