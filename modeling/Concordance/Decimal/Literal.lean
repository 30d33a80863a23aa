/-!
# Reading numbers

Numbers as they are typed: a sign, digits with at most one point among or beside them, an exponent, or
one of the names of infinity and of what is not a number. The value is the number nearest to the
decimal that is written. Integers have a sign and digits, and have to fit the range that is asked for.
-/

namespace Concordance.Decimal

def isDigit (c : Char) : Bool :=
  '0' ≤ c && c ≤ '9'

def digitsValue (digits : List Char) : Nat :=
  digits.foldl (fun n c => 10 * n + (c.toNat - '0'.toNat)) 0

/-- A sign, if there is one, and the rest. -/
def takeSign : List Char → Bool × List Char
  | '-' :: rest => (true, rest)
  | '+' :: rest => (false, rest)
  | rest => (false, rest)

/-- The value of a row of digits that is not empty and holds nothing else. -/
def natural? (text : List Char) : Option Nat :=
  if text.isEmpty || !text.all isDigit then none else some (digitsValue text)

def integer? (text : List Char) : Option Int :=
  let (negative, digits) := takeSign text
  (natural? digits).map fun n => if negative then -(n : Int) else n

def int64? (text : List Char) : Option Int :=
  (integer? text).bind fun n => if -0x8000000000000000 ≤ n ∧ n < 0x8000000000000000 then some n else none

/-- A natural number of 64 bits; a plus sign may stand before it. -/
def word64? (text : List Char) : Option UInt64 :=
  let digits :=
    match text with
    | '+' :: rest => rest
    | rest => rest
  (natural? digits).bind fun n => if n < 0x10000000000000000 then some (UInt64.ofNat n) else none

/-- The number nearest to `digits · 10 ^ exponent`. -/
def nearest (digits : Nat) (exponent : Int) : Float :=
  let length : Int := (Nat.toDigits 10 digits).length
  if digits = 0 then 0
  else if 320 < length + exponent then 1 / 0
  else if length + exponent < -340 then 0
  else if exponent < 0 then Float.ofScientific digits true (-exponent).toNat
  else Float.ofScientific digits false exponent.toNat

/-- An exponent, if one is written, and nothing after it. -/
def exponent? : List Char → Option Int
  | [] => some 0
  | c :: rest => if c = 'e' ∨ c = 'E' then integer? rest else none

def unsigned? (text : List Char) : Option Float :=
  let whole := text.takeWhile isDigit
  let rest := text.dropWhile isDigit
  let (fraction, rest) :=
    match rest with
    | '.' :: rest => (rest.takeWhile isDigit, rest.dropWhile isDigit)
    | rest => ([], rest)
  if whole.isEmpty && fraction.isEmpty then none
  else (exponent? rest).map fun e => nearest (digitsValue (whole ++ fraction)) (e - fraction.length)

def float? (text : List Char) : Option Float :=
  let (negative, rest) := takeSign text
  let magnitude :=
    match String.ofList (rest.map Char.toLower) with
    | "inf" | "infinity" => some (1 / 0)
    | "nan" => some (0 / 0)
    | _ => unsigned? rest
  magnitude.map fun x => if negative then -x else x

end Concordance.Decimal
