import Concordance.Decimal.Dyadic

/-!
# The numbers of the ranking

The ranking formulas use few operations on numbers, which this class names. The program runs them over
floating-point numbers; read over the reals they obey the laws of a field.
-/

namespace Concordance

class Scalar (α : Type) extends Add α, Sub α, Mul α, Div α where
  /-- A natural number. -/
  ofNat : Nat → α
  /-- One half. -/
  half : α
  /-- The natural logarithm. -/
  log : α → α
  /-- The number is greater than zero. -/
  isPositive : α → Bool
  /-- The order in which scores are ranked. -/
  order : α → α → Ordering

/-- `x`, or zero if it is not positive. -/
def Scalar.atLeastZero {α : Type} [Scalar α] (x : α) : α :=
  if isPositive x then x else ofNat 0

/-- The place of a floating-point number among all of them: minus zero comes before zero, and what is
not a number before all others. -/
def floatRank (x : Float) : Int :=
  if x.isNaN then -0x10000000000000000
  else
    let bits := x.toBits.toNat
    if bits < 0x8000000000000000 then bits else -(bits - 0x8000000000000000 : Nat) - 1

instance : Scalar Float where
  ofNat n := Float.ofNat n
  half := 0.5
  log := Float.log
  isPositive x := x > 0
  order x y := compare (floatRank x) (floatRank y)

end Concordance
