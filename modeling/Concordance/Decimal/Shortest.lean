import Concordance.Decimal.Dyadic

/-!
# The shortest decimal

A binary64 number is written with the fewest digits that read back as the same number, and of those
with the digits nearest to it. The reals that read back as `m · 2 ^ q` form an interval around it: up
to half a unit of the last place on either side, a quarter below when `m` is the least significand of
its binade; the ends belong to it when `m` is even. For one digit, two digits, … the decimals of that
many digits form a grid, and if some point of the grid lies in the interval then so does a neighbour
of the number on the grid.
-/

namespace Concordance.Decimal

/-- The decimal `digits · 10 ^ exponent`. -/
structure Scaled where
  digits : Nat
  exponent : Int
deriving DecidableEq, Repr

namespace Dyadic

/-- The least significand of a binade whose lower neighbour is twice as near. -/
def isBinadeStart (x : Dyadic) : Bool :=
  x.significand = 0x10000000000000 && x.exponent ≠ -1074

/-- Four times the distance to the lower end of the interval, in units of the last place. -/
def gapBelow (x : Dyadic) : Nat :=
  if x.isBinadeStart then 1 else 2

def readsBack (x : Dyadic) (c : Scaled) : Bool :=
  let decimal := 4 * c.digits * Nat.pow 10 c.exponent.toNat * Nat.pow 2 (-x.exponent).toNat
  let unit := Nat.pow 2 x.exponent.toNat * Nat.pow 10 (-c.exponent).toNat
  let low := (4 * x.significand - x.gapBelow) * unit
  let high := (4 * x.significand + 2) * unit
  if x.significand % 2 = 0 then low ≤ decimal && decimal ≤ high
  else low < decimal && decimal < high

/-- How many places `n / d`, less than one, has to be moved up to reach one; at most `fuel`. -/
def placesBelowOne (n d : Nat) : (fuel : Nat) → Nat
  | 0 => 0
  | fuel + 1 => if d ≤ n then 0 else placesBelowOne (10 * n) d fuel + 1

/-- The power of ten of the first digit of a positive number. -/
def magnitude (x : Dyadic) : Int :=
  if x.denominator ≤ x.numerator then
    ((Nat.toDigits 10 x.whole).length : Int) - 1
  else -(placesBelowOne x.numerator x.denominator 400 : Int)

def neighbours (x : Dyadic) (exponent : Int) : Scaled × Scaled :=
  let below := x.numerator * Nat.pow 10 (-exponent).toNat / (x.denominator * Nat.pow 10 exponent.toNat)
  (⟨below, exponent⟩, ⟨below + 1, exponent⟩)

/-- `x` lies in the lower half of the gap between its neighbours, or in the middle of a gap that
begins with an even digit. -/
def isNearerBelow (x : Dyadic) (below : Scaled) : Bool :=
  let position := 2 * x.numerator * Nat.pow 10 (-below.exponent).toNat
  let middle := (2 * below.digits + 1) * x.denominator * Nat.pow 10 below.exponent.toNat
  position < middle || (position = middle && below.digits % 2 = 0)

/-- The nearest decimal with the exponent that reads back, if any does. -/
def onGrid? (x : Dyadic) (exponent : Int) : Option Scaled :=
  let (below, above) := x.neighbours exponent
  match x.readsBack below, x.readsBack above with
  | true, true => some (if x.isNearerBelow below then below else above)
  | true, false => some below
  | false, true => some above
  | false, false => none

/-- The first hit among the grids of `first`, `first - 1`, …; the finest, of seventeen digits, always
has one. -/
def searchGrids (x : Dyadic) (first : Int) : (more : Nat) → Scaled
  | 0 => (x.neighbours first).1
  | more + 1 => (x.onGrid? first).getD (searchGrids x (first - 1) more)

/-- The decimal of fewest digits that reads back as a positive number. -/
def shortest (x : Dyadic) : Scaled :=
  x.searchGrids x.magnitude 17

end Dyadic

/-- A decimal in scientific form: its digits without zeros at the end, and the power of ten of the
first of them. -/
structure Scientific where
  digits : List Char
  exponent : Int

def Scaled.scientific (c : Scaled) : Scientific :=
  let digits := Nat.toDigits 10 c.digits
  let kept := (digits.reverse.dropWhile (· == '0')).reverse
  ⟨if kept.isEmpty then ['0'] else kept, c.exponent + digits.length - 1⟩

/-! ### The written form -/

/-- A number of JSON: positional from `10 ^ (-5)` up to below `10 ^ 16`, with at least one place after
the point, and with an exponent otherwise, whose sign is written. -/
def Scientific.write (s : Scientific) : List Char :=
  if -5 ≤ s.exponent ∧ s.exponent < 16 then
    if s.exponent < 0 then
      ['0', '.'] ++ List.replicate (-s.exponent - 1).toNat '0' ++ s.digits
    else
      let places := s.exponent.toNat + 1
      let fraction := s.digits.drop places
      s.digits.take places ++ List.replicate (places - s.digits.length) '0' ++
        '.' :: (if fraction.isEmpty then ['0'] else fraction)
  else
    let fraction := s.digits.drop 1
    s.digits.take 1 ++ (if fraction.isEmpty then [] else '.' :: fraction) ++ ['e'] ++
      (if s.exponent < 0 then '-' :: Nat.toDigits 10 (-s.exponent).toNat
        else '+' :: Nat.toDigits 10 s.exponent.toNat)

def Dyadic.write (x : Dyadic) : List Char :=
  if x.significand = 0 then ['0', '.', '0'] else x.shortest.scientific.write

/-- The shortest decimal of a finite number; `none` for the numbers that JSON cannot write. -/
def write? (x : Float) : Option String :=
  match Reading.ofFloat x with
  | .finite negative magnitude =>
    some (String.ofList ((if negative then ['-'] else []) ++ magnitude.write))
  | _ => none

end Concordance.Decimal
