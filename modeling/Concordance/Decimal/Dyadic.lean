/-!
# Floating-point numbers as integers

A finite number of the binary64 format is `± significand · 2 ^ exponent` with natural numbers in
place of the bits. All that is written about a number is computed from these two.
-/

namespace Concordance.Decimal

/-- The magnitude of a finite binary64 number: `significand · 2 ^ exponent`. -/
structure Dyadic where
  significand : Nat
  exponent : Int
deriving DecidableEq, Repr

inductive Reading where
  | notANumber
  | infinite (negative : Bool)
  | finite (negative : Bool) (magnitude : Dyadic)

/-- The number that a pattern of 64 bits stands for. -/
def Reading.ofBits (bits : UInt64) : Reading :=
  let n := bits.toNat
  let negative := decide (n / 0x8000000000000000 = 1)
  let field : Nat := n / 0x10000000000000 % 2048
  let fraction : Nat := n % 0x10000000000000
  if field = 2047 then
    if fraction = 0 then .infinite negative else .notANumber
  else if field = 0 then .finite negative ⟨fraction, -1074⟩
  else .finite negative ⟨0x10000000000000 + fraction, Int.ofNat field - 1075⟩

def Reading.ofFloat (x : Float) : Reading :=
  .ofBits x.toBits

namespace Dyadic

def numerator (x : Dyadic) : Nat :=
  x.significand * Nat.pow 2 x.exponent.toNat

def denominator (x : Dyadic) : Nat :=
  Nat.pow 2 (-x.exponent).toNat

def isWhole (x : Dyadic) : Bool :=
  x.numerator % x.denominator = 0

def whole (x : Dyadic) : Nat :=
  x.numerator / x.denominator

end Dyadic

end Concordance.Decimal
