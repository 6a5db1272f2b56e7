import Stencil.Number.Rounding

/-!
# The shortest decimal that reads back

A double is the nearest one to every number of an interval around it.  Its shortest decimal is the
multiple of a power of ten in that interval for the largest power that has one; of two such
multiples the nearer one counts, and a rule for ties decides between equally near ones.
-/

namespace Stencil

/-- A decimal number: a significand times a power of ten. -/
structure Decimal where
  /-- The digits, read as one natural number. -/
  significand : Nat
  /-- The power of ten of the last digit. -/
  exponent : Int
deriving DecidableEq, Repr

/-- Which of two equally near neighbours is chosen. -/
inductive TieRule where
  /-- The larger one. -/
  | up
  /-- The one whose last digit is even. -/
  | even
deriving DecidableEq, Repr

namespace Shortest

/-- Numerator and denominator of a power of ten. -/
def powerOfTen (exponent : Int) : Nat × Nat :=
  if exponent < 0 then (1, Nat.pow 10 exponent.natAbs) else (Nat.pow 10 exponent.natAbs, 1)

/-- Twice the lower end of the interval of a rank, in units. -/
def lowerEnd (rank : Nat) : Nat := Double.units (rank - 1) + Double.units rank

/-- Twice the upper end of the interval of a rank, in units. -/
def upperEnd (rank : Nat) : Nat := Double.units rank + Double.units (rank + 1)

/-- Whether a number of half units, given as a quotient, lies in the interval of a rank.  The ends
belong to the interval of an even rank, since ties go to it. -/
def inInterval (rank numerator denominator : Nat) : Bool :=
  if rank % 2 = 0 then
    decide (lowerEnd rank * denominator ≤ numerator) &&
      decide (numerator ≤ upperEnd rank * denominator)
  else
    decide (lowerEnd rank * denominator < numerator) &&
      decide (numerator < upperEnd rank * denominator)

/-- The multiple of a power of ten chosen for a rank, if one lies in its interval. -/
def onGrid? (tie : TieRule) (rank : Nat) (exponent : Int) : Option Nat :=
  let (tenNumerator, tenDenominator) := powerOfTen exponent
  let step := 2 * tenNumerator * Double.unitsPerOne
  let value := 2 * Double.units rank * tenDenominator
  let below := value / step
  let fitsBelow := inInterval rank (below * step) tenDenominator
  let fitsAbove := inInterval rank ((below + 1) * step) tenDenominator
  match fitsBelow, fitsAbove with
  | false, false => none
  | true, false => some below
  | false, true => some (below + 1)
  | true, true =>
    match compare (2 * (value % step)) step, tie with
    | .lt, _ => some below
    | .gt, _ => some (below + 1)
    | .eq, .up => some (below + 1)
    | .eq, .even => some (below + below % 2)

/-- The decimal of the coarsest grid, among the next `fuel` ones, that has a point in the interval
of a rank. -/
def search (tie : TieRule) (rank : Nat) : Nat → Int → Decimal
  | 0, exponent => ⟨0, exponent⟩
  | fuel + 1, exponent =>
    match onGrid? tie rank exponent with
    | some significand => ⟨significand, exponent⟩
    | none => search tie rank fuel (exponent - 1)

/-- The shortest decimal of a rank.  The search starts above every finite magnitude, and the grid
of the smallest unit has a point in every interval, so 640 grids are enough. -/
def ofRank (tie : TieRule) (rank : Nat) : Decimal :=
  if rank = 0 then ⟨0, 0⟩ else search tie rank 640 309

end Shortest
end Stencil
