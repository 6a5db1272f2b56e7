import Mathlib.Algebra.Group.Int.Defs
import Stencil.Proofs.Helper.Builtin
import Stencil.Proofs.Number.Integer
import Stencil.Proofs.Value.Sameness

/-!
# How the comparing helpers agree

Equality looks at numbers as doubles and at the structure of everything else; the order looks at
numbers that values cast to, and at texts.  These are different coercions, yet equal values never
come before or after each other, and numbers are always comparable.

Integers are compared as doubles too.  So integers of 64 binary digits that have the same nearest
double count as equal, although they differ.
-/

namespace Stencil

namespace Double

theorem order?_swap (left right : Double) :
    right.order? left = (left.order? right).map Ordering.swap := by
  unfold order?
  cases left.position? <;> cases right.position? <;> simp [Int.compare_swap]

theorem exists_position?_eq
    {value : Double}
    (number : value ≠ .nan) : ∃ place, value.position? = some place := by
  cases value with
  | nan => exact absurd rfl number
  | infinite negative => exact ⟨_, rfl⟩
  | finite value => exact ⟨_, rfl⟩

theorem order?_of_nan
    {left right : Double}
    (undefined : left = .nan ∨ right = .nan) : left.order? right = none := by
  rcases undefined with rfl | rfl
  · rfl
  · cases left <;> rfl

theorem ofRank_ne_nan (negative : Bool) (rank : Nat) : ofRank negative rank ≠ .nan := by
  unfold ofRank
  split <;> simp

end Double

/-- Numbers of data have a place in the order of numbers. -/
theorem Number.exists_position?_eq (value : Number) :
    ∃ place, value.toDouble.position? = some place := by
  apply Double.exists_position?_eq
  cases value with
  | integer value => exact Double.ofRank_ne_nan _ _
  | float value => exact Double.noConfusion

namespace Comparison

/-- What equality looks at: the place of a number in the order of numbers, and the structure of any
other value. -/
def compared : Value → Option Int ⊕ Value
  | .number value => .inl value.toDouble.position?
  | other => .inr other.unsigned

theorem order?_number (left right : Number) :
    order? (some (.number left)) (some (.number right)) =
      left.toDouble.order? right.toDouble := by
  simp only [order?, Value.toDouble]
  cases left.toDouble.order? right.toDouble <;> rfl

theorem looselyEqual_number (left right : Number) :
    looselyEqual (some (.number left)) (some (.number right)) =
      (order? (some (.number left)) (some (.number right)) == some .eq) := by
  rw [order?_number]
  rfl

theorem exists_order?_number (left right : Number) :
    ∃ order, order? (some (.number left)) (some (.number right)) = some order := by
  obtain ⟨leftPlace, leftPlaced⟩ := left.exists_position?_eq
  obtain ⟨rightPlace, rightPlaced⟩ := right.exists_position?_eq
  refine ⟨compare leftPlace rightPlace, ?_⟩
  rw [order?_number, Double.order?, leftPlaced, rightPlaced]

theorem looselyEqual_iff {left right : Value} :
    looselyEqual (some left) (some right) ↔ compared left = compared right := by
  cases left <;> cases right
  case number.number left right =>
    obtain ⟨leftPlace, leftPlaced⟩ := left.exists_position?_eq
    obtain ⟨rightPlace, rightPlaced⟩ := right.exists_position?_eq
    simp [looselyEqual, compared, Double.equal, Double.order?, leftPlaced, rightPlaced]
  all_goals simp [looselyEqual, compared, Value.same_iff, Value.unsigned]

/-- Equality is an equivalence: it compares what it looks at. -/
theorem looselyEqual_equivalence :
    Equivalence fun left right => looselyEqual (some left) (some right) = true := by
  simp only [looselyEqual_iff]
  exact ⟨fun _ => rfl, Eq.symm, Eq.trans⟩

theorem order?_swap (left right : Value) :
    order? (some right) (some left) = (order? (some left) (some right)).map Ordering.swap := by
  unfold order?
  rw [Double.order?_swap (Value.toDouble (some left))]
  cases (Value.toDouble (some left)).order? (Value.toDouble (some right)) with
  | some order => rfl
  | none => cases left <;> cases right <;> simp [← Std.OrientedOrd.eq_swap]

/-- Texts of which one does not cast to a number compare as texts. -/
theorem order?_string
    {left right : Text}
    (notBoth : Value.castText left = .nan ∨ Value.castText right = .nan) :
    order? (some (.string left)) (some (.string right)) = some (compare left right) := by
  simp [order?, Value.toDouble, Double.order?_of_nan notBoth]

theorem looselyEqual_string_iff {left right : Text} :
    looselyEqual (some (.string left)) (some (.string right)) ↔ compare left right = .eq := by
  simp [looselyEqual, Value.same]

theorem eq_of_order?_self
    {value : Value}
    {order : Ordering}
    (ordered : order? (some value) (some value) = some order) : order = .eq := by
  have swapped := order?_swap value value
  rw [ordered] at swapped
  cases order <;> simp at swapped ⊢

/-- Equal values do not come before or after each other. -/
theorem eq_of_looselyEqual
    {left right : Value}
    (equal : looselyEqual (some left) (some right))
    {order : Ordering}
    (ordered : order? (some left) (some right) = some order) : order = .eq := by
  cases left with
  | number left =>
    cases right with
    | number right =>
      rw [looselyEqual_number, ordered] at equal
      exact Option.some.inj (eq_of_beq equal)
    | _ => exact absurd equal Bool.false_ne_true
  | array items => cases right <;> exact nomatch ordered
  | object entries => cases right <;> exact nomatch ordered
  | null =>
    cases right with
    | null => exact eq_of_order?_self ordered
    | _ => exact absurd equal Bool.false_ne_true
  | bool left =>
    cases right with
    | bool right =>
      obtain rfl : left = right := by simpa [looselyEqual, Value.same] using equal
      exact eq_of_order?_self ordered
    | _ => exact absurd equal Bool.false_ne_true
  | string left =>
    cases right with
    | string right =>
      obtain rfl : left = right := by simpa [looselyEqual, Value.same] using equal
      exact eq_of_order?_self ordered
    | _ => exact absurd equal Bool.false_ne_true

/-- Whether two values are equal, whether the first is greater, and whether it is less. -/
def verdicts (left right : Value) : List Bool :=
  let order := order? (some left) (some right)
  [looselyEqual (some left) (some right), order == some .gt, order == some .lt]

theorem count_verdicts_le (left right : Value) : (verdicts left right).count true ≤ 1 := by
  unfold verdicts
  cases ordered : order? (some left) (some right) with
  | none => cases looselyEqual (some left) (some right) <;> decide
  | some order =>
    cases equal : looselyEqual (some left) (some right) with
    | true =>
      obtain rfl := eq_of_looselyEqual equal ordered
      decide
    | false => cases order <;> decide

/-- Where values are equal exactly when neither comes first, one of the three always holds. -/
theorem count_verdicts_eq
    {left right : Value}
    {order : Ordering}
    (ordered : order? (some left) (some right) = some order)
    (equal_iff : looselyEqual (some left) (some right) ↔ order = .eq) :
    (verdicts left right).count true = 1 := by
  unfold verdicts
  rw [ordered, Bool.eq_iff_iff.mpr (equal_iff.trans (beq_iff_eq (b := Ordering.eq)).symm)]
  cases order <;> decide

/-- What four ways of comparing values have to do with each other. -/
structure Cohere (equal different greater less : Value → Value → Bool) : Prop where
  /-- One value is greater than another when that one is less. -/
  greater_eq : ∀ left right, greater left right = less right left
  /-- Values differ when they are not equal. -/
  different_eq : ∀ left right, different left right = !equal left right
  /-- Equality is an equivalence. -/
  equivalence : Equivalence fun left right => equal left right = true
  /-- No two of the three hold. -/
  exclusive : ∀ left right,
    [equal left right, greater left right, less left right].count true ≤ 1
  /-- One of the three holds of numbers. -/
  numbers : ∀ left right : Number,
    [equal (.number left) (.number right), greater (.number left) (.number right),
      less (.number left) (.number right)].count true = 1
  /-- One of the three holds of texts that do not both cast to numbers. -/
  texts : ∀ left right : Text, Value.castText left = .nan ∨ Value.castText right = .nan →
    [equal (.string left) (.string right), greater (.string left) (.string right),
      less (.string left) (.string right)].count true = 1

end Comparison

namespace Builtin

open Comparison

/-- What the helpers that compare two values answer. -/
theorem decides_comparisons (left right : Value) :
    Decides "eq".toList left right (looselyEqual (some left) (some right)) ∧
      Decides "ne".toList left right (!looselyEqual (some left) (some right)) ∧
      Decides "gt".toList left right (order? (some left) (some right) == some .gt) ∧
      Decides "lt".toList left right (order? (some left) (some right) == some .lt) := by
  have listed : ("eq".toList, equal) ∈ functions ∧ ("ne".toList, notEqual) ∈ functions ∧
      ("gt".toList, greater) ∈ functions ∧ ("lt".toList, less) ∈ functions := by
    simp [functions]
  obtain ⟨equal, different, greater, less⟩ := listed
  exact ⟨decides_of_mem equal rfl, decides_of_mem different rfl, decides_of_mem greater rfl,
    decides_of_mem less rfl⟩

/-- The helpers that compare two values cohere on all of them. -/
theorem comparisons_cohere :
    ∃ equal different greater less : Value → Value → Bool,
      (∀ left right, Decides "eq".toList left right (equal left right)) ∧
      (∀ left right, Decides "ne".toList left right (different left right)) ∧
      (∀ left right, Decides "gt".toList left right (greater left right)) ∧
      (∀ left right, Decides "lt".toList left right (less left right)) ∧
      Cohere equal different greater less := by
  refine ⟨_, _, _, _, fun left right => (decides_comparisons left right).1,
    fun left right => (decides_comparisons left right).2.1,
    fun left right => (decides_comparisons left right).2.2.1,
    fun left right => (decides_comparisons left right).2.2.2, ?_⟩
  refine
    { greater_eq := ?_
      different_eq := fun _ _ => rfl
      equivalence := looselyEqual_equivalence
      exclusive := count_verdicts_le
      numbers := ?_
      texts := ?_ }
  · intro left right
    rw [order?_swap left right]
    cases order? (some left) (some right) with
    | none => rfl
    | some order => cases order <;> rfl
  · intro left right
    obtain ⟨order, ordered⟩ := exists_order?_number left right
    refine count_verdicts_eq ordered ?_
    rw [looselyEqual_number, ordered, beq_iff_eq, Option.some_inj]
  · intro left right notBoth
    exact count_verdicts_eq (order?_string notBoth) looselyEqual_string_iff

/-- Whether two integers are compared as integers. -/
def ComparesExactly (left right : Int) : Prop :=
  Decides "eq".toList (.ofInt left) (.ofInt right) (left = right) ∧
    Decides "ne".toList (.ofInt left) (.ofInt right) (left ≠ right) ∧
    Decides "gt".toList (.ofInt left) (.ofInt right) (right < left) ∧
    Decides "lt".toList (.ofInt left) (.ofInt right) (left < right)

/-- An integer that fits into 64 binary digits, with or without a sign. -/
def IsWord (value : Int) : Prop := -2 ^ 63 ≤ value ∧ value < 2 ^ 64

instance : DecidablePred IsWord := fun value =>
  inferInstanceAs (Decidable (-2 ^ 63 ≤ value ∧ value < 2 ^ 64))

section Integers

variable {left right : Int} (leftWord : IsWord left) (rightWord : IsWord right)

include leftWord rightWord

theorem order?_ofInt :
    order? (some (.ofInt left)) (some (.ofInt right)) =
      some (compare (Double.nearestInt left) (Double.nearestInt right)) := by
  unfold IsWord at leftWord rightWord
  have compared := @Double.order?_ofInt left right (by omega) (by omega)
  exact (order?_number (.integer left) (.integer right)).trans compared

theorem looselyEqual_ofInt :
    looselyEqual (some (.ofInt left)) (some (.ofInt right)) =
      decide (Double.nearestInt left = Double.nearestInt right) := by
  have compared := order?_ofInt leftWord rightWord
  unfold Value.ofInt at compared ⊢
  rw [looselyEqual_number, compared, Bool.eq_iff_iff, beq_iff_eq, Option.some_inj,
    Int.compare_eq_eq, decide_eq_true_iff]

/-- Integers are compared as the nearest doubles. -/
theorem decides_ofInt :
    let near := Double.nearestInt
    Decides "eq".toList (.ofInt left) (.ofInt right) (near left = near right) ∧
      Decides "ne".toList (.ofInt left) (.ofInt right) (near left ≠ near right) ∧
      Decides "gt".toList (.ofInt left) (.ofInt right) (near right < near left) ∧
      Decides "lt".toList (.ofInt left) (.ofInt right) (near left < near right) := by
  intro near
  obtain ⟨equal, different, greater, less⟩ := decides_comparisons (.ofInt left) (.ofInt right)
  rw [looselyEqual_ofInt leftWord rightWord] at equal different
  rw [order?_ofInt leftWord rightWord] at greater less
  have isGreater : (some (compare (near left) (near right)) == some .gt) =
      decide (near right < near left) := by
    rw [Bool.eq_iff_iff, beq_iff_eq, Option.some_inj, Int.compare_eq_gt, decide_eq_true_iff]
  have isLess : (some (compare (near left) (near right)) == some .lt) =
      decide (near left < near right) := by
    rw [Bool.eq_iff_iff, beq_iff_eq, Option.some_inj, Int.compare_eq_lt, decide_eq_true_iff]
  rw [isGreater] at greater
  rw [isLess] at less
  rw [← decide_not] at different
  exact ⟨equal, different, greater, less⟩

/-- Integers of which only one is nearest to each double are compared as integers. -/
theorem comparesExactly_of_injective
    (apart : Double.nearestInt left = Double.nearestInt right → left = right) :
    ComparesExactly left right := by
  have forwards := @Double.nearestInt_mono left right
  have backwards := @Double.nearestInt_mono right left
  have same_iff : Double.nearestInt left = Double.nearestInt right ↔ left = right :=
    ⟨apart, congrArg _⟩
  have greater_iff : Double.nearestInt right < Double.nearestInt left ↔ right < left := by omega
  have less_iff : Double.nearestInt left < Double.nearestInt right ↔ left < right := by omega
  obtain ⟨equal, different, greater, less⟩ := decides_ofInt leftWord rightWord
  rw [decide_eq_decide.mpr same_iff] at equal
  rw [decide_eq_decide.mpr (not_congr same_iff)] at different
  rw [decide_eq_decide.mpr greater_iff] at greater
  rw [decide_eq_decide.mpr less_iff] at less
  exact ⟨equal, different, greater, less⟩

/-- Integers are compared as the nearest doubles, so never the wrong way round.  They are compared
as integers unless they differ but have the same nearest double, which needs both of them to have
more than 53 binary digits. -/
theorem comparesExactly_iff :
    (left ≤ right → Decides "gt".toList (.ofInt left) (.ofInt right) false) ∧
      (right ≤ left → Decides "lt".toList (.ofInt left) (.ofInt right) false) ∧
      (ComparesExactly left right ↔
        (Double.nearestInt left = Double.nearestInt right → left = right)) ∧
      (left.natAbs < 2 ^ 53 ∨ right.natAbs < 2 ^ 53 → ComparesExactly left right) := by
  obtain ⟨equal, -, greater, less⟩ := decides_ofInt leftWord rightWord
  have exact_of_injective := comparesExactly_of_injective leftWord rightWord
  refine ⟨fun order => ?_, fun order => ?_, ⟨fun exactly same => ?_, exact_of_injective⟩, ?_⟩
  · rwa [decide_eq_false (Int.not_lt.mpr (Double.nearestInt_mono order))] at greater
  · rwa [decide_eq_false (Int.not_lt.mpr (Double.nearestInt_mono order))] at less
  · exact decide_eq_decide.mp (equal.unique exactly.1) |>.mp same
  · rintro (short | short)
    · exact exact_of_injective (Double.eq_of_nearestInt_eq short)
    · exact exact_of_injective fun same => (Double.eq_of_nearestInt_eq short same.symm).symm

end Integers

/-- The largest integer of 53 binary digits still differs from the next one. -/
theorem comparesExactly_of_last :
    IsWord 9007199254740991 ∧ IsWord 9007199254740992 ∧
      ComparesExactly 9007199254740991 9007199254740992 := by
  have leftWord : IsWord 9007199254740991 := by decide
  have rightWord : IsWord 9007199254740992 := by decide
  obtain ⟨-, -, -, exact_of_short⟩ := comparesExactly_iff leftWord rightWord
  exact ⟨leftWord, rightWord, exact_of_short (.inl (by decide))⟩

/-- The next integer is the nearest double to its successor, and the two count as equal. -/
theorem not_comparesExactly_of_next :
    IsWord 9007199254740992 ∧ IsWord 9007199254740993 ∧
      Decides "eq".toList (.ofInt 9007199254740992) (.ofInt 9007199254740993) true ∧
      ¬ ComparesExactly 9007199254740992 9007199254740993 := by
  have leftWord : IsWord 9007199254740992 := by decide
  have rightWord : IsWord 9007199254740993 := by decide
  have same : Double.nearestInt 9007199254740992 = Double.nearestInt 9007199254740993 := by
    decide
  obtain ⟨equal, -⟩ := decides_ofInt leftWord rightWord
  rw [decide_eq_true same] at equal
  exact ⟨leftWord, rightWord, equal, fun exactly => nomatch equal.unique exactly.1⟩

end Builtin
end Stencil
