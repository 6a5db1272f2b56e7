import Stencil.Dictionary
import Stencil.Number.Rounding

/-!
# Data values

Templates are rendered against values of the kinds that data files have.  Numbers come in two kinds,
integers and doubles; the entries of an object are kept in the order of their keys.
-/

namespace Stencil

/-- A number in data. -/
inductive Number where
  /-- An integer, exact. -/
  | integer (value : Int)
  /-- A finite double. -/
  | float (value : Finite)
deriving DecidableEq, Repr

/-- The nearest double. -/
def Number.toDouble : Number → Double
  | integer value => Double.ofInt value
  | float value => .finite value

/-- Whether two numbers are of one kind and equal in value. -/
def Number.same : Number → Number → Bool
  | integer left, integer right => left == right
  | float left, float right => (Double.finite left).equal (.finite right)
  | _, _ => false

/-- A value of the data that a template is rendered against. -/
inductive Value where
  /-- The absent value. -/
  | null
  /-- A truth value. -/
  | bool (value : Bool)
  /-- A number. -/
  | number (value : Number)
  /-- A text. -/
  | string (value : Text)
  /-- A list of values. -/
  | array (items : List Value)
  /-- Named values. -/
  | object (entries : List (Text × Value))
deriving Repr, Inhabited

namespace Value

/-- An integer value. -/
def ofInt (value : Int) : Value := .number (.integer value)

/-- An object whose entries are given in any order; the last value of a key counts. -/
def ofEntries (entries : List (Text × Value)) : Value := .object (Dictionary.ofList entries)

/-- Whether the value is absent. -/
def isNull : Value → Bool
  | null => true
  | _ => false

mutual
/-- Whether two values have the same structure, their numbers being of one kind and equal. -/
def same : Value → Value → Bool
  | null, null => true
  | bool left, bool right => left == right
  | number left, number right => left.same right
  | string left, string right => left == right
  | array left, array right => sameItems left right
  | object left, object right => sameEntries left right
  | _, _ => false

/-- Whether two lists have the same items in the same order. -/
def sameItems : List Value → List Value → Bool
  | [], [] => true
  | left :: lefts, right :: rights => left.same right && sameItems lefts rights
  | _, _ => false

/-- Whether two lists have the same keys with the same values in the same order. -/
def sameEntries : List (Text × Value) → List (Text × Value) → Bool
  | [], [] => true
  | (leftKey, left) :: lefts, (rightKey, right) :: rights =>
    leftKey == rightKey && left.same right && sameEntries lefts rights
  | _, _ => false
end

end Value
end Stencil
