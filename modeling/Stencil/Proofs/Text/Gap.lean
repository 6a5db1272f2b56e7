import Stencil.Proofs.Text.Layout

/-!
# Texts with gaps

A family of texts may be the same up to gaps: each text of the family fills all its gaps with the
same filling, and what stands between the gaps does not depend on the text.  Putting such families
together, or weaving them into a text, gives such families again.
-/

namespace Stencil
namespace Text

/-- The texts of a family that are the same up to gaps, where `filling` says what fills the gaps of
each text. -/
inductive Fills {ι : Type} (filling : ι → Text) : (ι → Text) → Prop where
  /-- A text without gaps. -/
  | last (text : Text) : Fills filling fun _ => text
  /-- A text up to the first gap, the gap, and what comes after it. -/
  | cons (text : Text) {rest : ι → Text} (later : Fills filling rest) :
    Fills filling fun index => text ++ filling index ++ rest index

namespace Fills

variable {ι : Type} {filling : ι → Text}

theorem gap (filling : ι → Text) : Fills filling filling := by
  have whole := Fills.cons [] (@Fills.last ι filling [])
  simpa using whole

theorem prepend
    {texts : ι → Text}
    (text : Text)
    (fills : Fills filling texts) : Fills filling fun index => text ++ texts index := by
  cases fills with
  | last other => exact .last (text ++ other)
  | cons other later =>
    simp only [← List.append_assoc]
    exact .cons (text ++ other) later

theorem append
    {left right : ι → Text}
    (fillsLeft : Fills filling left)
    (fillsRight : Fills filling right) : Fills filling fun index => left index ++ right index := by
  induction fillsLeft with
  | last text => exact fillsRight.prepend text
  | cons text later inductionHypothesis =>
    simp only [List.append_assoc _ _ (right _)]
    exact .cons text inductionHypothesis

theorem flatten
    {families : List (ι → Text)}
    (fills : ∀ family ∈ families, Fills filling family) :
    Fills filling fun index => (families.map fun family => family index).flatten := by
  induction families with
  | nil => exact .last []
  | cons family families inductionHypothesis =>
    have later := inductionHypothesis fun other member =>
      fills other (List.mem_cons_of_mem family member)
    exact (fills family List.mem_cons_self).append later

/-- Edits whose replacements are the same up to gaps make texts that are the same up to gaps. -/
theorem weave
    {families : List (ι → Edit)}
    (fills : ∀ family ∈ families, ∃ span texts, Fills filling texts ∧
      family = fun index => ⟨span, texts index⟩)
    (position : Nat)
    (text : Text) :
    Fills filling fun index =>
      Text.weave position text (families.map fun family => family index) := by
  induction families generalizing position text with
  | nil => exact .last text
  | cons family families inductionHypothesis =>
    obtain ⟨span, texts, here, rfl⟩ := fills family List.mem_cons_self
    have later := inductionHypothesis fun other member =>
      fills other (List.mem_cons_of_mem _ member)
    exact (here.prepend (takeBytes (span.start - position) text)).append
      (later span.stop (dropBytes (span.stop - position) text))

/-- Texts with the same fillings are the same. -/
theorem eq_of_filling_eq
    {texts : ι → Text}
    (fills : Fills filling texts)
    {left right : ι}
    (same : filling left = filling right) : texts left = texts right := by
  induction fills with
  | last text => rfl
  | cons text later inductionHypothesis =>
    dsimp only
    rw [same, inductionHypothesis]

/-- Texts that are the same up to gaps are chunks with the filling between them. -/
theorem exists_chunks
    {texts : ι → Text}
    (fills : Fills filling texts) :
    ∃ chunks, chunks ≠ [] ∧ ∀ index, texts index = List.intercalate (filling index) chunks := by
  induction fills with
  | last text => exact ⟨[text], List.cons_ne_nil _ _, fun _ => List.intercalate_singleton.symm⟩
  | cons text later inductionHypothesis =>
    obtain ⟨chunks, nonempty, same⟩ := inductionHypothesis
    refine ⟨text :: chunks, List.cons_ne_nil _ _, fun index => ?_⟩
    dsimp only
    rw [List.intercalate_cons_of_ne_nil nonempty, same]

end Fills
end Text
end Stencil
