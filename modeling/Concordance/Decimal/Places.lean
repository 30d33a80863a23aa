import Concordance.Decimal.Dyadic

/-!
# A fixed number of places

A number rounded to so many places after the point. The exact value of the number is rounded, and one
that lies in the middle goes to the even neighbour.
-/

namespace Concordance.Decimal

/-- `n / d` rounded to the nearest whole number, the middle to the even one. -/
def roundHalfEven (n d : Nat) : Nat :=
  let down := n / d
  let twice := 2 * (n % d)
  if twice < d ∨ (twice = d ∧ down % 2 = 0) then down else down + 1

/-- `text` with `pad` before it until it has `width` characters. -/
def padStart (pad : Char) (width : Nat) (text : List Char) : List Char :=
  List.replicate (width - text.length) pad ++ text

def Dyadic.writeFixed (x : Dyadic) (places : Nat) : List Char :=
  let scaled := roundHalfEven (x.numerator * Nat.pow 10 places) x.denominator
  let digits := padStart '0' (places + 1) (Nat.toDigits 10 scaled)
  let whole := digits.length - places
  digits.take whole ++ (if places = 0 then [] else '.' :: digits.drop whole)

/-- `x` with `places` digits after the point. -/
def writeFixed (x : Float) (places : Nat) : String :=
  match Reading.ofFloat x with
  | .notANumber => "NaN"
  | .infinite negative => if negative then "-inf" else "inf"
  | .finite negative magnitude =>
    String.ofList ((if negative then ['-'] else []) ++ magnitude.writeFixed places)

end Concordance.Decimal
