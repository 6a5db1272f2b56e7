import Stencil.Proofs.Text.Cut

/-!
# Where a pattern occurs

An occurrence of a pattern in a text is named by its position.  Cutting a text at a pattern finds
the first of them.
-/

namespace Stencil
namespace Text

/-- Whether a pattern occurs in a text at a position. -/
def OccursAt (pattern text : Text) (position : Nat) : Prop :=
  ∃ before after, text = before ++ pattern ++ after ∧ size before = position

/-- Two ways to divide a text agree up to the end of the shorter beginning. -/
theorem exists_append_of_size_le
    {left right front back : Text}
    (same : left ++ right = front ++ back)
    (short : size left ≤ size front) :
    ∃ middle, front = left ++ middle ∧ right = middle ++ back := by
  rcases List.append_eq_append_iff.mp same with ⟨middle, frontSplit, rightSplit⟩ |
    ⟨middle, rfl, rfl⟩
  · exact ⟨middle, frontSplit, rightSplit⟩
  · cases middle with
    | nil => exact ⟨[], by simp only [List.append_nil], rfl⟩
    | cons character rest =>
      have := character.utf8Size_pos
      simp only [size_append, size_cons] at short
      omega

variable {pattern text : Text} {position : Nat}

theorem occursAt_append (before pattern after : Text) :
    OccursAt pattern (before ++ pattern ++ after) (size before) :=
  ⟨before, after, rfl, rfl⟩

namespace OccursAt

/-- An occurrence behind text in front is an occurrence in what follows it. -/
theorem of_append
    {front : Text}
    (occurs : OccursAt pattern (front ++ text) position)
    (behind : size front ≤ position) :
    ∃ inset, OccursAt pattern text inset ∧ position = size front + inset := by
  obtain ⟨before, after, split, rfl⟩ := occurs
  rw [List.append_assoc] at split
  obtain ⟨middle, rfl, rest⟩ := exists_append_of_size_le split behind
  refine ⟨size middle, ⟨middle, after, ?_, rfl⟩, size_append front middle⟩
  rw [rest, List.append_assoc]

/-- A text is cut at the first occurrence. -/
theorem size_le_of_cut?
    {before after : Text}
    (occurs : OccursAt pattern text position)
    (found : cut? pattern text = some (before, after)) : size before ≤ position := by
  obtain ⟨front, back, rfl, rfl⟩ := occurs
  obtain ⟨first, rest, foundFront⟩ := exists_cut?_of_eq_append pattern front []
  rw [List.append_nil] at foundFront
  have same := cut?_append_of_some foundFront back
  rw [found] at same
  obtain ⟨rfl, -⟩ := Prod.mk.inj (Option.some.inj same)
  have sizes := congrArg size (eq_append_of_cut? foundFront)
  simp only [size_append] at sizes
  omega

end OccursAt

/-- A text is not cut when the pattern does not occur in it. -/
theorem cut?_eq_none_iff :
    cut? pattern text = none ↔ ∀ position, ¬ OccursAt pattern text position := by
  constructor
  · rintro absent position ⟨before, after, rfl, -⟩
    obtain ⟨first, rest, found⟩ := exists_cut?_of_eq_append pattern before after
    rw [absent] at found
    exact nomatch found
  · intro nowhere
    cases found : cut? pattern text with
    | none => rfl
    | some parts =>
      obtain ⟨before, after⟩ := parts
      exact absurd ⟨before, after, eq_append_of_cut? found, rfl⟩ (nowhere (size before))

end Text
end Stencil
