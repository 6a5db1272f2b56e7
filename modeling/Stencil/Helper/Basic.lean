import Stencil.Value.Basic

/-!
# Helpers

A helper turns a list of values into a value.  It may fail with a message, and it may break down
without answering at all, with or without a message.  Registries hold helpers by name; for one
rendering, further helpers can be laid over a registry.
-/

namespace Stencil

/-- What calling a helper comes to. -/
inductive HelperAnswer where
  /-- A value. -/
  | value (result : Value)
  /-- A failure that the helper reports. -/
  | failure (message : Text)
  /-- A breakdown of the helper, which may leave a message. -/
  | breakdown (message? : Option Text)
deriving Repr, Inhabited

namespace HelperAnswer

/-- What is reported for a breakdown without a message. -/
def silentBreakdown : Text := "helper panicked".toList

/-- The value, or the message that is reported instead. -/
def toExcept : HelperAnswer → Except Text Value
  | .value result => .ok result
  | .failure message => .error message
  | .breakdown message? => .error (message?.getD silentBreakdown)

/-- Whether the helper answered with a value. -/
def succeeded : HelperAnswer → Bool
  | .value _ => true
  | _ => false

end HelperAnswer

/-- A named function of templates. -/
abbrev Helper := List Value → HelperAnswer

/-- Helpers by name. -/
abbrev Registry := Dictionary Helper

/-- The helpers of one rendering. -/
structure HelperScope where
  /-- Helpers that count before those of the registry. -/
  overrides : Registry := []
  /-- The helpers of the engine. -/
  base : Registry

namespace HelperScope

/-- The helper of a name. -/
def get? (scope : HelperScope) (name : Text) : Option Helper :=
  match Dictionary.get? name scope.overrides with
  | some helper => some helper
  | none => Dictionary.get? name scope.base

/-- Whether there is a helper of a name. -/
def contains (scope : HelperScope) (name : Text) : Bool :=
  Dictionary.contains name scope.overrides || Dictionary.contains name scope.base

theorem get?_eq_or (scope : HelperScope) (name : Text) :
    scope.get? name =
      (Dictionary.get? name scope.overrides).or (Dictionary.get? name scope.base) := by
  rw [get?]
  cases Dictionary.get? name scope.overrides <;> rfl

theorem contains_eq_isSome_get? (scope : HelperScope) (name : Text) :
    scope.contains name = (scope.get? name).isSome := by
  rw [contains, get?_eq_or, Option.isSome_or, Dictionary.contains_eq_isSome_get?,
    Dictionary.contains_eq_isSome_get?]

end HelperScope
end Stencil
