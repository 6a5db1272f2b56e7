import Stencil.Text.Basic

/-!
# Where a text is cut

The first occurrence of a pattern does not depend on what follows it, and it moves along with text
in front that shares no character with the pattern.
-/

namespace Stencil
namespace Text

@[simp] theorem remainder?_append_self (lead rest : Text) :
    remainder? lead (lead ++ rest) = some rest := by
  induction lead with
  | nil => rfl
  | cons character lead inductionHypothesis =>
    rw [List.cons_append, remainder?, if_pos rfl, inductionHypothesis]

theorem remainder?_eq_some_iff {lead text rest : Text} :
    remainder? lead text = some rest ↔ text = lead ++ rest := by
  constructor
  · exact eq_append_of_remainder?
  · rintro rfl
    exact remainder?_append_self lead rest

theorem remainder?_eq_none_iff {lead text : Text} :
    remainder? lead text = none ↔ ¬ lead <+: text := by
  constructor
  · rintro absent ⟨rest, rfl⟩
    simp at absent
  · intro different
    cases found : remainder? lead text with
    | none => rfl
    | some rest => exact absurd ⟨rest, (remainder?_eq_some_iff.mp found).symm⟩ different

theorem cut?_of_remainder?
    {pattern rest after : Text}
    (found : remainder? pattern rest = some after) : cut? pattern rest = some ([], after) := by
  cases rest with
  | nil => simp [cut?, found]
  | cons character rest => simp [cut?, found]

theorem cut?_cons_of_not_isPrefix
    {pattern rest : Text}
    {character : Char}
    (different : ¬ pattern <+: character :: rest) :
    cut? pattern (character :: rest) =
      (cut? pattern rest).map fun (before, after) => (character :: before, after) := by
  have absent := remainder?_eq_none_iff.mpr different
  simp [cut?, absent]

theorem cut?_nil {pattern : Text} (nonempty : pattern ≠ []) : cut? pattern [] = none := by
  cases pattern with
  | nil => exact absurd rfl nonempty
  | cons character rest => rfl

/-- The first occurrence stays the first one when the text goes on. -/
theorem cut?_append_of_some
    {pattern text before after : Text}
    (found : cut? pattern text = some (before, after))
    (more : Text) :
    cut? pattern (text ++ more) = some (before, after ++ more) := by
  induction text generalizing before with
  | nil =>
    simp only [cut?, Option.map_eq_some_iff, Prod.mk.injEq] at found
    obtain ⟨rest, remains, rfl, rfl⟩ := found
    have empty := remainder?_eq_some_iff.mp remains
    obtain ⟨rfl, rfl⟩ := List.append_eq_nil_iff.mp empty.symm
    exact cut?_of_remainder? rfl
  | cons character rest inductionHypothesis =>
    by_cases same : pattern <+: character :: rest
    · obtain ⟨tail, split⟩ := same
      have remains : remainder? pattern (character :: rest) = some tail :=
        remainder?_eq_some_iff.mpr split.symm
      rw [cut?_of_remainder? remains] at found
      obtain ⟨rfl, rfl⟩ := Prod.mk.inj (Option.some.inj found)
      apply cut?_of_remainder?
      rw [← split, List.append_assoc]
      exact remainder?_append_self pattern _
    · rw [cut?_cons_of_not_isPrefix same, Option.map_eq_some_iff] at found
      obtain ⟨⟨front, back⟩, foundRest, equal⟩ := found
      obtain ⟨rfl, rfl⟩ := Prod.mk.inj equal
      -- The pattern fits into `rest`, so a match across the end would be a match before it.
      have fits : pattern.length ≤ (character :: rest).length := by
        have whole := congrArg List.length (eq_append_of_cut? foundRest)
        simp only [List.length_append, List.length_cons] at whole ⊢
        omega
      have different : ¬ pattern <+: character :: (rest ++ more) := by
        intro crossing
        exact same (List.prefix_of_prefix_length_le crossing (List.prefix_append _ more) fits)
      rw [List.cons_append, cut?_cons_of_not_isPrefix different, inductionHypothesis foundRest]
      rfl

theorem exists_cut?_of_eq_append
    (pattern before after : Text) :
    ∃ first rest, cut? pattern (before ++ pattern ++ after) = some (first, rest) := by
  induction before with
  | nil => exact ⟨[], after, cut?_of_remainder? (remainder?_append_self pattern after)⟩
  | cons character before inductionHypothesis =>
    obtain ⟨first, rest, found⟩ := inductionHypothesis
    by_cases same : pattern <+: character :: (before ++ pattern ++ after)
    · obtain ⟨tail, split⟩ := same
      exact ⟨[], tail, cut?_of_remainder? (remainder?_eq_some_iff.mpr split.symm)⟩
    · refine ⟨character :: first, rest, ?_⟩
      rw [List.cons_append, List.cons_append, cut?_cons_of_not_isPrefix same, found]
      rfl

/-- A text may be shortened behind its first occurrence of a pattern. -/
theorem cut?_of_append
    {pattern text before front back : Text}
    (found : cut? pattern text = some (before, front ++ back)) :
    cut? pattern (before ++ pattern ++ front) = some (before, front) := by
  obtain ⟨first, rest, foundFront⟩ := exists_cut?_of_eq_append pattern before front
  have same := cut?_append_of_some foundFront back
  rw [List.append_assoc, ← eq_append_of_cut? found, found] at same
  obtain ⟨rfl, remaining⟩ := Prod.mk.inj (Option.some.inj same)
  rw [foundFront, List.append_cancel_right remaining]

/-- Nothing is found before the first occurrence. -/
theorem cut?_eq_none_of_some
    {pattern text before after : Text}
    (nonempty : pattern ≠ [])
    (found : cut? pattern text = some (before, after)) : cut? pattern before = none := by
  cases earlier : cut? pattern before with
  | none => rfl
  | some parts =>
    obtain ⟨first, rest⟩ := parts
    have again := cut?_append_of_some earlier (pattern ++ after)
    rw [← List.append_assoc, ← eq_append_of_cut? found, found] at again
    obtain ⟨same, -⟩ := Prod.mk.inj (Option.some.inj again)
    have whole := congrArg List.length (eq_append_of_cut? earlier)
    have wide := List.length_pos_iff.mpr nonempty
    simp only [same, List.length_append] at whole
    omega

/-- A pattern that does not occur in a text does not occur in the end of it. -/
theorem cut?_eq_none_of_append_right
    {pattern front back : Text}
    (absent : cut? pattern (front ++ back) = none) : cut? pattern back = none := by
  cases found : cut? pattern back with
  | none => rfl
  | some parts =>
    obtain ⟨before, after⟩ := parts
    obtain ⟨first, rest, foundWhole⟩ := exists_cut?_of_eq_append pattern (front ++ before) after
    have whole : front ++ before ++ pattern ++ after = front ++ back := by
      rw [eq_append_of_cut? found]
      simp only [List.append_assoc]
    rw [whole, absent] at foundWhole
    exact absurd foundWhole.symm (Option.some_ne_none _)

/-- Text that shares no character with a pattern is passed over in search of it. -/
theorem cut?_append_of_disjoint
    {pattern front : Text}
    (nonempty : pattern ≠ [])
    (disjoint : ∀ character ∈ front, character ∉ pattern)
    (text : Text) :
    cut? pattern (front ++ text) =
      (cut? pattern text).map fun (before, after) => (front ++ before, after) := by
  induction front with
  | nil => simp
  | cons character front inductionHypothesis =>
    have different : ¬ pattern <+: character :: (front ++ text) := by
      intro same
      obtain ⟨first, others, rfl⟩ := List.exists_cons_of_ne_nil nonempty
      obtain ⟨rfl, _⟩ := List.cons_prefix_cons.mp same
      exact disjoint first List.mem_cons_self List.mem_cons_self
    have later := inductionHypothesis fun other member =>
      disjoint other (List.mem_cons_of_mem character member)
    rw [List.cons_append, cut?_cons_of_not_isPrefix different, later, Option.map_map]
    rfl

/-- A pattern does not occur in a text that shares no character with it. -/
theorem cut?_eq_none_of_disjoint
    {pattern text : Text}
    (nonempty : pattern ≠ [])
    (disjoint : ∀ character ∈ text, character ∉ pattern) : cut? pattern text = none := by
  have passed := cut?_append_of_disjoint nonempty disjoint []
  rwa [List.append_nil, cut?_nil nonempty] at passed

/-- A pattern after text that shares no character with it is found there. -/
theorem cut?_of_disjoint
    {pattern front : Text}
    (nonempty : pattern ≠ [])
    (disjoint : ∀ character ∈ front, character ∉ pattern)
    (after : Text) :
    cut? pattern (front ++ pattern ++ after) = some (front, after) := by
  rw [List.append_assoc, cut?_append_of_disjoint nonempty disjoint,
    cut?_of_remainder? (remainder?_append_self pattern after)]
  simp

/-- Whether an occurrence of a pattern reaches over the seam between two texts. -/
def Straddles (pattern left right : Text) : Prop :=
  ∃ before after, left ++ right = before ++ pattern ++ after ∧
    before.length < left.length ∧ left.length < before.length + pattern.length

theorem straddles_iff_exists_isPrefix {pattern left right : Text} :
    Straddles pattern left right ↔
      ∃ start < left.length, left.length < start + pattern.length ∧
        pattern <+: (left ++ right).drop start := by
  constructor
  · rintro ⟨before, after, split, starts, ends⟩
    refine ⟨before.length, starts, ends, after, ?_⟩
    rw [split, List.append_assoc, List.drop_left]
  · rintro ⟨start, starts, ends, after, occurs⟩
    have place : ((left ++ right).take start).length = start := by
      rw [List.length_take, List.length_append]
      omega
    refine ⟨(left ++ right).take start, after, ?_, ?_, ?_⟩
    · rw [List.append_assoc, occurs, List.take_append_drop]
    · rwa [place]
    · rwa [place]

instance (pattern left right : Text) : Decidable (Straddles pattern left right) :=
  decidable_of_iff' _ straddles_iff_exists_isPrefix

theorem Straddles.append_left
    {pattern left right : Text}
    (straddles : Straddles pattern left right)
    (front : Text) : Straddles pattern (front ++ left) right := by
  obtain ⟨before, after, split, starts, ends⟩ := straddles
  refine ⟨front ++ before, after, by simp only [List.append_assoc, split], ?_, ?_⟩ <;>
  · simp only [List.length_append]
    omega

/-- A text without a pattern is passed over in search of it, unless the pattern reaches over its
end. -/
theorem cut?_append_of_not_straddles
    {pattern left right : Text}
    (absent : cut? pattern left = none)
    (apart : ¬ Straddles pattern left right) :
    cut? pattern (left ++ right) =
      (cut? pattern right).map fun (before, after) => (left ++ before, after) := by
  induction left with
  | nil => simp
  | cons character left inductionHypothesis =>
    have different : ¬ pattern <+: character :: left := by
      rintro ⟨after, whole⟩
      rw [← whole, cut?_of_remainder? (remainder?_append_self pattern after)] at absent
      exact Option.some_ne_none _ absent
    rw [cut?_cons_of_not_isPrefix different, Option.map_eq_none_iff] at absent
    have different' : ¬ pattern <+: character :: (left ++ right) := by
      rintro ⟨after, whole⟩
      rcases Nat.lt_or_ge (character :: left).length pattern.length with longer | fits
      · exact apart ⟨[], after, whole.symm, Nat.zero_lt_succ _, by simpa using longer⟩
      · have occurs : pattern <+: character :: (left ++ right) := ⟨after, whole⟩
        exact different (List.prefix_of_prefix_length_le occurs (List.prefix_append _ right) fits)
    have later := inductionHypothesis absent fun straddles =>
      apart (straddles.append_left [character])
    rw [List.cons_append, cut?_cons_of_not_isPrefix different', later, Option.map_map]
    rfl

end Text
end Stencil
