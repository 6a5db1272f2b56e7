import Stencil.Value.Coercion

/-!
# Helpers that decide

Two numbers are equal when their doubles are; all other values are equal when they have the same
structure.  The order compares numbers where both sides cast to one, and otherwise only texts.
-/

namespace Stencil
namespace Comparison

/-- Whether two values, either of which may be missing, count as equal. -/
def looselyEqual : Option Value → Option Value → Bool
  | some (.number left), some (.number right) => left.toDouble.equal right.toDouble
  | some left, some right => left.same right
  | none, none => true
  | _, _ => false

/-- How two values compare, where they do. -/
def order? (left right : Option Value) : Option Ordering :=
  match (Value.toDouble left).order? (Value.toDouble right) with
  | some order => some order
  | none =>
    match left, right with
    | some (.string leftText), some (.string rightText) => some (compare leftText rightText)
    | _, _ => none

/-- Whether the first two arguments are equal. -/
def equal (arguments : List Value) : Value := .bool (looselyEqual arguments.head? arguments[1]?)

/-- Whether the first two arguments differ. -/
def notEqual (arguments : List Value) : Value :=
  .bool !(looselyEqual arguments.head? arguments[1]?)

/-- Whether the first argument is greater than the second. -/
def greater (arguments : List Value) : Value :=
  .bool (order? arguments.head? arguments[1]? == some .gt)

/-- Whether the first argument is less than the second. -/
def less (arguments : List Value) : Value :=
  .bool (order? arguments.head? arguments[1]? == some .lt)

/-- Whether all arguments are true. -/
def all (arguments : List Value) : Value :=
  .bool (arguments.all fun value => Value.truth (some value))

/-- Whether one of the arguments is true. -/
def any (arguments : List Value) : Value :=
  .bool (arguments.any fun value => Value.truth (some value))

/-- Whether the first argument is false. -/
def negation (arguments : List Value) : Value := .bool !(Value.truth arguments.head?)

end Comparison
end Stencil
