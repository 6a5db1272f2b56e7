import Stencil.Proofs.Text.Cut
import Stencil.Tag.Sighting

/-!
# The rules of scanning

A scan takes one step at each opening delimiter.  The rules below say what is met there and where
the scan goes on.  They describe scanning exactly, and proofs about scans go by induction on them.
-/

namespace Stencil

/-- The span of a tag with the given content whose opening delimiter stands at `start`. -/
def Delimiters.tagSpan (delimiters : Delimiters) (start : Nat) (content : Text) : Span :=
  ⟨start, start + Text.size delimiters.opening + Text.size content + Text.size delimiters.closing⟩

namespace Sighting

/-- What is met at an opening delimiter that is closed after the given content. -/
def ofContent (delimiters : Delimiters) (start : Nat) (content : Text) : Sighting :=
  if (Text.trim content).isEmpty then
    .blank (delimiters.tagSpan start content)
  else
    .tag ⟨Tag.Kind.ofContent (Text.trim content), delimiters.tagSpan start content⟩

theorem span_of_ofContent_eq_tag
    {delimiters : Delimiters}
    {start : Nat}
    {content : Text}
    {tag : Tag}
    (met : ofContent delimiters start content = .tag tag) :
    tag.span = delimiters.tagSpan start content := by
  unfold ofContent at met
  split at met
  · exact Sighting.noConfusion met
  · obtain rfl := Sighting.tag.inj met
    rfl

/-- The rules of scanning a text that stands at a position of the whole. -/
inductive Scans (delimiters : Delimiters) : Nat → Text → List Sighting → Prop where
  | done
    {position : Nat}
    {text : Text}
    (absent : Text.cut? delimiters.opening text = none) :
    Scans delimiters position text []
  | unclosed
    {position : Nat}
    {text before inside : Text}
    (opened : Text.cut? delimiters.opening text = some (before, inside))
    (absent : Text.cut? delimiters.closing inside = none) :
    Scans delimiters position text [.unterminated (position + Text.size before)]
  | reopened
    {position : Nat}
    {text before inside content after skipped more : Text}
    {sightings : List Sighting}
    (opened : Text.cut? delimiters.opening text = some (before, inside))
    (closed : Text.cut? delimiters.closing inside = some (content, after))
    (again : Text.cut? delimiters.opening content = some (skipped, more))
    (rest : Scans delimiters
      (position + Text.size before + Text.size delimiters.opening + Text.size skipped)
      (delimiters.opening ++ more ++ delimiters.closing ++ after) sightings) :
    Scans delimiters position text (.reopened (position + Text.size before) :: sightings)
  | closed
    {position : Nat}
    {text before inside content after : Text}
    {sightings : List Sighting}
    (opened : Text.cut? delimiters.opening text = some (before, inside))
    (closed : Text.cut? delimiters.closing inside = some (content, after))
    (single : Text.cut? delimiters.opening content = none)
    (rest : Scans delimiters
      (delimiters.tagSpan (position + Text.size before) content).stop after sightings) :
    Scans delimiters position text
      (ofContent delimiters (position + Text.size before) content :: sightings)

section Rules

variable
  {delimiters : Delimiters}
  {text before inside content after skipped more : Text}

/-- The parts of a text with a delimiter that is closed. -/
theorem eq_append_of_closed
    (opened : Text.cut? delimiters.opening text = some (before, inside))
    (closed : Text.cut? delimiters.closing inside = some (content, after)) :
    text = before ++ delimiters.opening ++ content ++ delimiters.closing ++ after := by
  rw [Text.eq_append_of_cut? opened, Text.eq_append_of_cut? closed]
  simp only [List.append_assoc]

/-- The parts of what follows a delimiter that opens again. -/
theorem eq_append_of_again
    (closed : Text.cut? delimiters.closing inside = some (content, after))
    (again : Text.cut? delimiters.opening content = some (skipped, more)) :
    inside = skipped ++ (delimiters.opening ++ more ++ delimiters.closing ++ after) := by
  rw [Text.eq_append_of_cut? closed, Text.eq_append_of_cut? again]
  simp only [List.append_assoc]

/-- What is left to scan after a delimiter that opens again. -/
theorem drop_skipped
    (closed : Text.cut? delimiters.closing inside = some (content, after))
    (again : Text.cut? delimiters.opening content = some (skipped, more)) :
    inside.drop skipped.length =
      delimiters.opening ++ more ++ delimiters.closing ++ after := by
  rw [eq_append_of_again closed again, List.drop_left]

/-- The parts of a text with a delimiter that opens again. -/
theorem eq_append_of_reopened
    (opened : Text.cut? delimiters.opening text = some (before, inside))
    (closed : Text.cut? delimiters.closing inside = some (content, after))
    (again : Text.cut? delimiters.opening content = some (skipped, more)) :
    text = before ++ delimiters.opening ++ skipped ++
      (delimiters.opening ++ more ++ delimiters.closing ++ after) := by
  rw [Text.eq_append_of_cut? opened, eq_append_of_again closed again]
  simp only [List.append_assoc]

variable (usable : delimiters.opening ≠ [])

/-- A scan follows the rules. -/
theorem scans_scanFrom (position : Nat) (text : Text) :
    Scans delimiters position text (scanFrom delimiters usable position text) := by
  fun_induction scanFrom delimiters usable position text with
  | case1 position text absent => exact .done absent
  | case2 position text before inside opened start absent => exact .unclosed opened absent
  | case3 position text before inside opened start content after closed skipped more again
      inductionHypothesis =>
    rw [drop_skipped closed again] at inductionHypothesis ⊢
    exact .reopened opened closed again inductionHypothesis
  | case4 position text before inside opened start content after closed single stop trimmed
      sighting inductionHypothesis =>
    exact .closed opened closed single inductionHypothesis

/-- The rules leave no choice. -/
theorem Scans.eq_scanFrom
    {position : Nat}
    {text : Text}
    {sightings : List Sighting}
    (scans : Scans delimiters position text sightings) :
    sightings = scanFrom delimiters usable position text := by
  induction scans with
  | done absent =>
    rw [scanFrom]
    split <;> simp_all
  | unclosed opened absent =>
    rw [scanFrom]
    split
    · simp_all
    · split <;> simp_all
  | reopened opened closed again rest inductionHypothesis =>
    have remaining := drop_skipped closed again
    rw [scanFrom]
    split
    · simp_all
    · split <;> simp_all
  | closed opened closed single rest inductionHypothesis =>
    rw [scanFrom]
    split
    · simp_all
    · split <;> simp_all [ofContent, Delimiters.tagSpan]

end Rules

/-- Where an opening delimiter stands that was met, together with the tag that it starts. -/
def span (delimiters : Delimiters) : Sighting → Span
  | .tag found => found.span
  | .blank span => span
  | .reopened start => ⟨start, start + Text.size delimiters.opening⟩
  | .unterminated start => ⟨start, start + Text.size delimiters.opening⟩

@[simp] theorem span_ofContent (delimiters : Delimiters) (start : Nat) (content : Text) :
    (ofContent delimiters start content).span delimiters = delimiters.tagSpan start content := by
  unfold ofContent
  split <;> rfl

/-- Whether sightings are not empty and lie one after the other, from a position on. -/
structure InOrder
    (delimiters : Delimiters)
    (position : Nat)
    (sightings : List Sighting) : Prop where
  behind : ∀ sighting ∈ sightings, position ≤ (sighting.span delimiters).start
  wide : ∀ sighting ∈ sightings,
    (sighting.span delimiters).start < (sighting.span delimiters).stop
  apart : sightings.Pairwise fun left right =>
    (left.span delimiters).stop ≤ (right.span delimiters).start

namespace InOrder

variable
  {delimiters : Delimiters}
  {position next : Nat}
  {sightings : List Sighting}

theorem nil (delimiters : Delimiters) (position : Nat) : InOrder delimiters position [] where
  behind _ member := absurd member List.not_mem_nil
  wide _ member := absurd member List.not_mem_nil
  apart := .nil

theorem cons
    (later : InOrder delimiters next sightings)
    {first : Sighting}
    (behind : position ≤ (first.span delimiters).start)
    (wide : (first.span delimiters).start < (first.span delimiters).stop)
    (ends : (first.span delimiters).stop ≤ next) :
    InOrder delimiters position (first :: sightings) where
  behind := List.forall_mem_cons.mpr ⟨behind, fun other member => by
    have := later.behind other member
    omega⟩
  wide := List.forall_mem_cons.mpr ⟨wide, later.wide⟩
  apart := List.pairwise_cons.mpr
    ⟨fun other member => Nat.le_trans ends (later.behind other member), later.apart⟩

/-- Of two sightings, one lies behind the other. -/
theorem apart_of_mem
    (inOrder : InOrder delimiters position sightings)
    {left right : Sighting}
    (here : left ∈ sightings)
    (there : right ∈ sightings)
    (different : left ≠ right) :
    (left.span delimiters).stop ≤ (right.span delimiters).start ∨
      (right.span delimiters).stop ≤ (left.span delimiters).start := by
  obtain ⟨before, after, rfl⟩ := List.append_of_mem here
  obtain ⟨-, behind, across⟩ := List.pairwise_append.mp inOrder.apart
  rcases List.mem_append.mp there with early | late
  · exact .inr (across right early left List.mem_cons_self)
  · rcases List.mem_cons.mp late with same | late
    · exact absurd same.symm different
    · exact .inl ((List.pairwise_cons.mp behind).1 right late)

end InOrder

/-- What a scan meets lies one after the other, from the position of the text on. -/
theorem Scans.inOrder
    {delimiters : Delimiters}
    (usable : delimiters.opening ≠ [])
    {position : Nat}
    {text : Text}
    {sightings : List Sighting}
    (scans : Scans delimiters position text sightings) :
    InOrder delimiters position sightings := by
  have wide := Text.size_pos_of_ne_nil usable
  induction scans with
  | done absent => exact .nil _ _
  | unclosed opened absent =>
    exact (InOrder.nil _ _).cons (Nat.le_add_right _ _) (Nat.lt_add_of_pos_right wide)
      (Nat.le_refl _)
  | reopened opened closed again rest inductionHypothesis =>
    exact inductionHypothesis.cons (Nat.le_add_right _ _) (Nat.lt_add_of_pos_right wide)
      (Nat.le_add_right _ _)
  | closed opened closed single rest inductionHypothesis =>
    refine inductionHypothesis.cons ?_ ?_ (Nat.le_of_eq ?_)
    · rw [span_ofContent]
      exact Nat.le_add_right _ _
    · rw [span_ofContent]
      simp only [Delimiters.tagSpan]
      omega
    · rw [span_ofContent]

/-- A scan passes over text in front that the search for an opening delimiter passes over. -/
theorem Scans.prepend
    {delimiters : Delimiters}
    {front text : Text}
    (passed : Text.cut? delimiters.opening (front ++ text) =
      (Text.cut? delimiters.opening text).map fun (before, after) => (front ++ before, after))
    {position : Nat}
    {sightings : List Sighting}
    (scans : Scans delimiters (position + Text.size front) text sightings) :
    Scans delimiters position (front ++ text) sightings := by
  have sizes (before : Text) :
      position + Text.size front + Text.size before = position + Text.size (front ++ before) := by
    rw [Text.size_append, Nat.add_assoc]
  cases scans with
  | done absent =>
    rw [absent] at passed
    exact .done passed
  | unclosed opened absent =>
    rw [opened] at passed
    rw [sizes]
    exact .unclosed passed absent
  | reopened opened closed again rest =>
    rw [opened] at passed
    rw [sizes] at rest ⊢
    exact .reopened passed closed again rest
  | closed opened closed single rest =>
    rw [opened] at passed
    rw [sizes] at rest ⊢
    exact .closed passed closed single rest

end Sighting
end Stencil
