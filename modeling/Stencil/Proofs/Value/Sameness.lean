import Stencil.Value.Basic

/-!
# When values are the same

Values are the same when nothing but the signs of zeros tells them apart.  So they are compared by
what is left of them without these signs, which makes sameness an equivalence.
-/

namespace Stencil

/-- The number without the sign of a zero. -/
def Finite.unsigned (value : Finite) : Finite :=
  { value with negative := value.negative && !value.isZero }

theorem Finite.signedRank_eq_iff {left right : Finite} :
    left.signedRank = right.signedRank ↔ left.unsigned = right.unsigned := by
  obtain ⟨leftNegative, leftRank, leftBound⟩ := left
  obtain ⟨rightNegative, rightRank, rightBound⟩ := right
  cases leftNegative <;> cases rightNegative <;>
    simp [signedRank, unsigned, isZero] <;> omega

theorem Double.equal_finite_iff {left right : Finite} :
    (Double.finite left).equal (.finite right) ↔ left.unsigned = right.unsigned := by
  rw [← Finite.signedRank_eq_iff]
  simp [Double.equal, Double.order?, Double.position?]

/-- The number without the sign of a zero. -/
def Number.unsigned : Number → Number
  | integer value => integer value
  | float value => float value.unsigned

theorem Number.same_iff {left right : Number} :
    left.same right ↔ left.unsigned = right.unsigned := by
  cases left <;> cases right <;> simp [same, unsigned, Double.equal_finite_iff]

namespace Value

mutual
/-- The value without the signs of its zeros. -/
def unsigned : Value → Value
  | number value => number value.unsigned
  | array items => array (unsignedItems items)
  | object entries => object (unsignedEntries entries)
  | other => other

/-- Items without the signs of their zeros. -/
def unsignedItems : List Value → List Value
  | [] => []
  | item :: items => item.unsigned :: unsignedItems items

/-- Entries without the signs of their zeros. -/
def unsignedEntries : List (Text × Value) → List (Text × Value)
  | [] => []
  | (key, value) :: entries => (key, value.unsigned) :: unsignedEntries entries
end

mutual
/-- Values are the same when they do not differ without the signs of their zeros. -/
theorem same_iff : ∀ {left right : Value}, left.same right ↔ left.unsigned = right.unsigned
  | number left, right => by cases right <;> simp [same, unsigned, Number.same_iff]
  | array left, right => by cases right <;> simp [same, unsigned, sameItems_iff]
  | object left, right => by cases right <;> simp [same, unsigned, sameEntries_iff]
  | null, right => by cases right <;> simp [same, unsigned]
  | bool left, right => by cases right <;> simp [same, unsigned]
  | string left, right => by cases right <;> simp [same, unsigned]

theorem sameItems_iff :
    ∀ {left right : List Value}, sameItems left right ↔ unsignedItems left = unsignedItems right
  | [], right => by cases right <;> simp [sameItems, unsignedItems]
  | left :: lefts, right => by
    cases right <;> simp [sameItems, unsignedItems, @same_iff left, @sameItems_iff lefts]

theorem sameEntries_iff :
    ∀ {left right : List (Text × Value)},
      sameEntries left right ↔ unsignedEntries left = unsignedEntries right
  | [], right => by cases right <;> simp [sameEntries, unsignedEntries]
  | (key, left) :: lefts, right => by
    cases right <;>
      simp [sameEntries, unsignedEntries, and_assoc, @same_iff left, @sameEntries_iff lefts]
end

end Value
end Stencil
