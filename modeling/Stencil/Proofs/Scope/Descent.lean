import Stencil.Proofs.Scope.Lookup

/-!
# Descending into values

Every segment of a path but the first one names a part of the value found before it.  What has no
such part makes the path undefined: no other frame of the scope is looked at again.
-/

namespace Stencil

namespace Path

/-- The last dot of a path cuts its last segment off. -/
theorem segments_append_cons
    {segment : Text}
    (single : '.' ∉ segment)
    (path : Text) : segments (path ++ '.' :: segment) = segments path ++ [segment] := by
  induction path with
  | nil =>
    have last := segments_eq_singleton (head_eq_self single)
    rw [segments] at last
    rw [List.nil_append, segments, Text.pieces, if_pos rfl, last]
    rfl
  | cons character path inductionHypothesis =>
    obtain ⟨rest, first⟩ := exists_segments_eq path
    rw [segments] at first
    rw [segments, segments, first] at inductionHypothesis
    rw [List.cons_append, segments, segments, Text.pieces, Text.pieces, inductionHypothesis, first]
    split <;> rfl

/-- Whether a segment is written as the index of an item: in digits, after a plus sign at most. -/
def IsIndex (segment : Text) (index : Nat) : Prop :=
  ∃ digits, (segment = digits ∨ segment = '+' :: digits) ∧ digits ≠ [] ∧
    (∀ digit ∈ digits, digit.isDigit) ∧ Numeral.digitsValue digits = index

theorem index?_eq_some_iff {segment : Text} {index : Nat} :
    index? segment = some index ↔ IsIndex segment index := by
  have read (digits : Text) :
      (if digits.isEmpty || !digits.all Char.isDigit then none
        else some (Numeral.digitsValue digits)) = some index ↔
        digits ≠ [] ∧ (∀ digit ∈ digits, digit.isDigit) ∧ Numeral.digitsValue digits = index := by
    cases digits <;> simp [and_assoc]
  unfold index?
  split
  · next digits =>
    rw [read]
    constructor
    · exact fun isIndex => ⟨digits, .inr rfl, isIndex⟩
    · rintro ⟨others, rfl | same, isIndex⟩
      · -- A plus sign is no digit.
        exact absurd (isIndex.2.1 '+' List.mem_cons_self) (by decide)
      · obtain rfl := (List.cons.inj same).2
        exact isIndex
  · next unsigned =>
    rw [read]
    constructor
    · exact fun isIndex => ⟨segment, .inl rfl, isIndex⟩
    · rintro ⟨others, rfl | rfl, isIndex⟩
      · exact isIndex
      · exact absurd rfl (unsigned others)

theorem descend?_append_singleton (value : Value) (segments : List Text) (last : Text) :
    descend? value (segments ++ [last]) =
      (descend? value segments).bind fun part => child? part last := by
  induction segments generalizing value with
  | nil => exact Option.bind_fun_some (child? value last)
  | cons segment segments inductionHypothesis =>
    rw [List.cons_append, descend?, descend?, Option.bind_assoc]
    simp only [inductionHypothesis]

end Path

/-- Whether a segment names a part of a value: an entry of an object, an item of a list, or the
number of items of a list or of characters of a text. -/
inductive Value.HasPart : Value → Text → Value → Prop where
  | entry
    {entries : Dictionary Value}
    {key : Text}
    {part : Value}
    (found : Dictionary.get? key entries = some part) : HasPart (.object entries) key part
  | item
    {items : List Value}
    {segment : Text}
    {index : Nat}
    {part : Value}
    (written : Path.IsIndex segment index)
    (found : items[index]? = some part) : HasPart (.array items) segment part
  | itemCount (items : List Value) : HasPart (.array items) "length".toList (.ofInt items.length)
  | characterCount (text : Text) : HasPart (.string text) "length".toList (.ofInt text.length)

theorem Path.child?_eq_some_iff {value : Value} {segment : Text} {part : Value} :
    child? value segment = some part ↔ value.HasPart segment part := by
  constructor
  · intro found
    cases value with
    | object entries => exact .entry found
    | array items =>
      rw [child?] at found
      split at found
      · next isLength =>
        obtain rfl := Option.some.inj found
        exact isLength ▸ .itemCount items
      · obtain ⟨index, written, here⟩ := Option.bind_eq_some_iff.mp found
        exact .item (index?_eq_some_iff.mp written) here
    | string text =>
      rw [child?] at found
      split at found
      · next isLength =>
        obtain rfl := Option.some.inj found
        exact isLength ▸ .characterCount text
      · exact nomatch found
    | _ => exact nomatch found
  · intro hasPart
    cases hasPart with
    | entry found => exact found
    | @item items _ index _ written found =>
      have isIndex := index?_eq_some_iff.mpr written
      have notLength : segment ≠ lengthName := by
        rintro rfl
        exact nomatch isIndex
      rw [child?, if_neg notLength, isIndex]
      exact found
    | itemCount items => rfl
    | characterCount text => rfl

namespace Scope

variable {scope : Scope} {path segment : Text}

/-- A longer path goes on from the value of the shorter one. -/
theorem lookup?_append (scope : Scope) (path : Text) (single : '.' ∉ segment) :
    scope.lookup? (path ++ '.' :: segment) =
      (scope.lookup? path).bind fun value => Path.child? value segment := by
  obtain ⟨rest, segments⟩ := Path.exists_segments_eq path
  have longer : Path.segments (path ++ '.' :: segment) =
      Path.head path :: (rest ++ [segment]) := by
    rw [Path.segments_append_cons single, segments, List.cons_append]
  rw [lookup?, lookup?, longer, segments]
  dsimp only
  rw [Option.bind_assoc]
  simp only [Path.descend?_append_singleton]

end Scope
end Stencil
