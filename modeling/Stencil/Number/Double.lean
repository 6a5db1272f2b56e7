/-!
# Double-precision numbers

A double is a finite number, an infinity or not a number.  The finite magnitudes are counted: the
magnitude of rank `n` is the `n`-th smallest one, zero having rank zero.  Every magnitude is a
whole number of the same smallest unit, so that arithmetic on doubles is exact arithmetic on
natural numbers followed by one rounding.
-/

namespace Stencil
namespace Double

/-- Number of steps from one power of two to the next. -/
def stepCount : Nat := Nat.pow 2 52

/-- Number of finite magnitudes. -/
def rankCount : Nat := 2047 * stepCount

/-- Number of smallest units in the number one. -/
def unitsPerOne : Nat := Nat.pow 2 1074

/-- Whole numbers from here on are not taken for integers. -/
def wholeLimit : Nat := 1000000000000000

/-- Number of encodings of one sign. -/
def signUnit : Nat := Nat.pow 2 63

/-- Number of smallest units in the magnitude of a rank.  The first two powers of two share the
smallest step; above them the step doubles with every power of two. -/
def units (rank : Nat) : Nat :=
  if rank < stepCount then
    rank
  else
    (stepCount + rank % stepCount) * Nat.pow 2 (rank / stepCount - 1)

end Double

/-- A finite double: a sign, which zero has too, and the rank of a magnitude. -/
structure Finite where
  /-- Whether the sign is minus. -/
  negative : Bool
  /-- Rank of the magnitude among all finite magnitudes. -/
  rank : Nat
  /-- The rank counts a finite magnitude. -/
  rank_lt : rank < Double.rankCount
deriving DecidableEq, Repr

/-- A double-precision number. -/
inductive Double where
  /-- The result of an operation without a numeric answer. -/
  | nan
  /-- A magnitude beyond every finite one. -/
  | infinite (negative : Bool)
  /-- A finite number. -/
  | finite (value : Finite)
deriving DecidableEq, Repr

namespace Finite

/-- The finite number zero, with a positive sign. -/
def zero : Finite := ⟨false, 0, by decide⟩

/-- Number of smallest units in the magnitude. -/
def units (value : Finite) : Nat := Double.units value.rank

/-- The value as a signed number of smallest units. -/
def signedUnits (value : Finite) : Int :=
  if value.negative then -(value.units : Int) else value.units

/-- The rank with the sign of the value, by which finite numbers are ordered. -/
def signedRank (value : Finite) : Int :=
  if value.negative then -(value.rank : Int) else value.rank

/-- Whether the value is zero of either sign. -/
def isZero (value : Finite) : Bool := value.rank = 0

/-- Whether the value is a whole number. -/
def isWhole (value : Finite) : Bool := value.units % Double.unitsPerOne = 0

/-- Whether the value is a whole number that is taken for an integer. -/
def isIntegral (value : Finite) : Bool :=
  value.isWhole && decide (value.units < Double.wholeLimit * Double.unitsPerOne)

/-- The whole number next to the value in the direction of zero. -/
def truncate (value : Finite) : Int :=
  if value.negative then
    -((value.units / Double.unitsPerOne : Nat) : Int)
  else
    (value.units / Double.unitsPerOne : Nat)

end Finite

namespace Double

/-- The number of a rank, which is infinite beyond the finite ranks. -/
def ofRank (negative : Bool) (rank : Nat) : Double :=
  if bound : rank < rankCount then .finite ⟨negative, rank, bound⟩ else .infinite negative

/-- The number zero. -/
def zero : Double := .finite .zero

/-- Change the sign. -/
def negate : Double → Double
  | nan => nan
  | infinite negative => infinite !negative
  | finite value => finite { value with negative := !value.negative }

/-- The position of a number in the order of all numbers; only `nan` has none. -/
def position? : Double → Option Int
  | nan => none
  | infinite negative => some (if negative then -(rankCount : Int) else rankCount)
  | finite value => some value.signedRank

/-- How two numbers compare.  Zeros of both signs are equal, and `nan` compares with nothing. -/
def order? (left right : Double) : Option Ordering :=
  match left.position?, right.position? with
  | some leftPosition, some rightPosition => some (compare leftPosition rightPosition)
  | _, _ => none

/-- Whether two numbers are equal in value. -/
def equal (left right : Double) : Bool := left.order? right == some .eq

/-- The number of an encoding of 64 bits: the sign, then the rank of the magnitude, of which the
highest ranks stand for infinity and for `nan`. -/
def ofBits (bits : Nat) : Double :=
  let negative := decide (bits / signUnit % 2 = 1)
  let rank := bits % signUnit
  if rankCount < rank then nan else ofRank negative rank

/-- The encoding in 64 bits, when the number is not `nan`, which has several. -/
def bits? : Double → Option Nat
  | nan => none
  | infinite negative => some ((if negative then signUnit else 0) + rankCount)
  | finite value => some ((if value.negative then signUnit else 0) + value.rank)

end Double
end Stencil
