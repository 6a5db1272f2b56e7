import Stencil.Proofs.Text.Splice

/-!
# Spans laid out in a text

Spans are laid out in a text when they lie in it one after the other, each between two characters.
Edits of such spans come to the same whether they are made in place, one after the other, or the
text is put together anew from what stands between the spans and from the replacements.
-/

namespace Stencil

/-- A span moved to the right. -/
def Span.shift (amount : Nat) (span : Span) : Span := ⟨span.start + amount, span.stop + amount⟩

/-- An edit moved to the right. -/
def Edit.shift (amount : Nat) (edit : Edit) : Edit := { edit with span := edit.span.shift amount }

namespace Text

theorem takeBytes_size_add (front text : Text) (count : Nat) :
    takeBytes (size front + count) (front ++ text) = front ++ takeBytes count text := by
  induction front with
  | nil => simp
  | cons character front inductionHypothesis =>
    have fits : character.utf8Size ≤ character.utf8Size + size front + count := by omega
    have left : character.utf8Size + size front + count - character.utf8Size =
        size front + count := by omega
    rw [List.cons_append, size_cons, takeBytes, if_pos fits, left, inductionHypothesis,
      List.cons_append]

theorem dropBytes_size_add (front text : Text) (count : Nat) :
    dropBytes (size front + count) (front ++ text) = dropBytes count text := by
  have whole := takeBytes_append_dropBytes (size front + count) (front ++ text)
  rw [takeBytes_size_add, List.append_assoc, List.append_cancel_left_eq] at whole
  have parts := takeBytes_append_dropBytes count text
  exact List.append_cancel_left (whole.trans parts.symm)

theorem slice_append (front middle back : Text) :
    slice (front ++ middle ++ back) (size front) (size front + size middle) = middle := by
  rw [slice, List.append_assoc, dropBytes_size_append, Nat.add_sub_cancel_left,
    takeBytes_size_append]

/-- A text that stands at a position, with each edit made: what stands before the first span, its
replacement, and so on to the end. -/
def weave (position : Nat) (text : Text) : List Edit → Text
  | [] => text
  | edit :: edits =>
    takeBytes (edit.span.start - position) text ++ edit.replacement ++
      weave edit.span.stop (dropBytes (edit.span.stop - position) text) edits

/-- Spans lie one after the other in a text that stands at a position, each between characters. -/
inductive HasSpans : Nat → Text → List Span → Prop where
  | nil {position : Nat} {text : Text} : HasSpans position text []
  | cons
    {position : Nat}
    (before old : Text)
    {rest : Text}
    {spans : List Span}
    (later : HasSpans (position + size before + size old) rest spans) :
    HasSpans position (before ++ old ++ rest)
      (⟨position + size before, position + size before + size old⟩ :: spans)

theorem weave_cons
    (position : Nat)
    (before old rest replacement : Text)
    (edits : List Edit) :
    weave position (before ++ old ++ rest)
        (⟨⟨position + size before, position + size before + size old⟩, replacement⟩ :: edits) =
      before ++ replacement ++ weave (position + size before + size old) rest edits := by
  have start : position + size before - position = size before := by omega
  have stop : position + size before + size old - position = size (before ++ old) := by
    rw [size_append]
    omega
  rw [weave, start, stop, dropBytes_size_append, List.append_assoc before, takeBytes_size_append]

theorem weave_shift (amount position : Nat) (text : Text) (edits : List Edit) :
    weave (position + amount) text (edits.map (Edit.shift amount)) =
      weave position text edits := by
  induction edits generalizing position text with
  | nil => rfl
  | cons edit edits inductionHypothesis =>
    simp only [List.map_cons, weave, Edit.shift, Span.shift, Nat.add_sub_add_right,
      inductionHypothesis]

/-- Edits behind a text leave it as it is. -/
theorem weave_map_shift (position : Nat) (front text : Text) (edits : List Edit) :
    weave position (front ++ text) (edits.map (Edit.shift (position + size front))) =
      front ++ weave 0 text edits := by
  cases edits with
  | nil => rfl
  | cons edit edits =>
    have moved (place : Nat) : place + (position + size front) - position = size front + place := by
      omega
    simp only [List.map_cons, weave, Edit.shift, Span.shift]
    rw [moved, moved, takeBytes_size_add, dropBytes_size_add]
    simp only [Nat.sub_zero, List.append_assoc]
    rw [← weave_shift (position + size front) edit.span.stop]

namespace HasSpans

variable {position : Nat} {text : Text} {spans : List Span}

/-- Text in front moves the spans along. -/
theorem prepend
    (front : Text)
    (laid : HasSpans (position + size front) text spans) :
    HasSpans position (front ++ text) spans := by
  cases laid with
  | nil => exact .nil
  | @cons _ before old rest spans later =>
    have place : position + size front + size before = position + size (front ++ before) := by
      rw [size_append, Nat.add_assoc]
    rw [place] at later ⊢
    simp only [← List.append_assoc]
    exact .cons (front ++ before) old later

/-- One of the spans divides the text into what is before it, the span and what follows. -/
theorem exists_split
    {early late : List Span}
    {span : Span}
    (laid : HasSpans position text (early ++ span :: late)) :
    ∃ before old rest, text = before ++ old ++ rest ∧
      span = ⟨position + size before, position + size before + size old⟩ ∧
      HasSpans (position + size before + size old) rest late := by
  induction early generalizing position text with
  | nil =>
    obtain _ | ⟨before, old, later⟩ := laid
    exact ⟨before, old, _, rfl, rfl, later⟩
  | cons first early inductionHypothesis =>
    obtain _ | ⟨before, old, later⟩ := laid
    obtain ⟨between, inner, rest, rfl, place, laidRest⟩ := inductionHypothesis later
    have start : position + size before + size old + size between =
        position + size (before ++ old ++ between) := by
      simp only [size_append, Nat.add_assoc]
    rw [start] at place laidRest
    exact ⟨before ++ old ++ between, inner, rest, by simp only [List.append_assoc], place, laidRest⟩

/-- Spans can be left out. -/
theorem tail
    {span : Span}
    (laid : HasSpans position text (span :: spans)) : HasSpans position text spans := by
  obtain _ | ⟨before, old, later⟩ := laid
  apply prepend (before ++ old)
  rwa [size_append, ← Nat.add_assoc]

/-- A span ends inside the text and not before it starts. -/
theorem bounds
    (laid : HasSpans position text spans) :
    ∀ span ∈ spans, position ≤ span.start ∧ span.start ≤ span.stop ∧
      span.stop ≤ position + size text := by
  intro span member
  obtain ⟨early, late, rfl⟩ := List.append_of_mem member
  obtain ⟨before, old, rest, rfl, rfl, -⟩ := laid.exists_split
  simp only [size_append]
  omega

/-- Edits made in place leave what is done already and weave the rest. -/
theorem spliceFrom_eq
    {edits : List Edit}
    (laid : HasSpans position text (edits.map Edit.span))
    (done : Text) :
    spliceFrom (size done - position) (done ++ text) edits = done ++ weave position text edits := by
  induction edits generalizing position text done with
  | nil => rfl
  | cons edit edits inductionHypothesis =>
    obtain ⟨span, replacement⟩ := edit
    obtain _ | ⟨before, old, later⟩ := laid
    have shift : (size done : Int) - position =
        size (done ++ before) - (position + size before : Nat) := by
      rw [size_append]
      omega
    rw [weave_cons, shift, ← List.append_assoc, ← List.append_assoc, spliceFrom_cons_append,
      inductionHypothesis later]
    simp only [List.append_assoc]

/-- Edits of spans that are laid out in a text come to weaving the replacements into it. -/
theorem splice_eq_weave
    {edits : List Edit}
    (laid : HasSpans 0 text (edits.map Edit.span)) : splice text edits = weave 0 text edits :=
  laid.spliceFrom_eq []

/-- Weaving goes on with text behind, and with edits of that text. -/
theorem weave_append
    {edits : List Edit}
    (laid : HasSpans position text (edits.map Edit.span))
    (more : Text)
    (later : List Edit) :
    weave position (text ++ more) (edits ++ later.map (Edit.shift (position + size text))) =
      weave position text edits ++ weave 0 more later := by
  induction edits generalizing position text with
  | nil => exact weave_map_shift position text more later
  | cons edit edits inductionHypothesis =>
    obtain ⟨span, replacement⟩ := edit
    obtain _ | @⟨_, before, old, rest, _, laidRest⟩ := laid
    have stop : position + size (before ++ old ++ rest) =
        position + size before + size old + size rest := by
      simp only [size_append]
      omega
    rw [stop, List.append_assoc (before ++ old), List.cons_append, weave_cons, weave_cons,
      inductionHypothesis laidRest]
    simp only [List.append_assoc]

end HasSpans
end Text
end Stencil
