import Concordance.Decimal.Literal
import Concordance.Json.Basic
import Concordance.Json.Syntax

/-!
# Reading JSON

The value of a tree of JSON syntax. A text may not hold half of a surrogate pair, values are nested at
most 127 deep, and of equal keys the last one counts.

A number without point and exponent that fits 64 bits is an integer, except for `-0`. For any other
number the digits are gathered into 64 bits as long as they fit, the power of ten that is left is
counted, and the two are multiplied, or divided where the power is negative, in floating-point
arithmetic. This is not always the nearest number to the decimal. A number that comes out infinite has
no value.
-/

namespace Concordance.Json

/-! ### Numbers -/

/-- Digits gathered into 64 bits: as many as fit, and those that are left. -/
def gather (significand : Nat) : List Char → Nat × List Char
  | [] => (significand, [])
  | c :: rest =>
    let next := 10 * significand + (c.toNat - '0'.toNat)
    if next < 0x10000000000000000 then gather next rest else (significand, c :: rest)

/-- `x · 10 ^ power` for a negative power, by steps of at most `10 ^ 308`. -/
def scaleDown (x : Float) (power : Nat) : (fuel : Nat) → Float
  | 0 => x
  | fuel + 1 =>
    if power ≤ 308 then x / Float.ofScientific 1 false power
    else if x == 0 then x
    else scaleDown (x / Float.ofScientific 1 false 308) (power - 308) fuel

/-- `significand · 10 ^ power` in floating-point arithmetic; `none` if it is infinite. -/
def scale? (significand : Nat) (power : Int) : Option Float :=
  let x := (UInt64.ofNat significand).toFloat
  if power < 0 then some (scaleDown x (-power).toNat 4)
  else if power ≤ 308 then
    let y := x * Float.ofScientific 1 false power.toNat
    if y.isInf then none else some y
  else if x == 0 then some x
  else none

/-- The power of ten that an exponent stands for: `none` if it is too large for any number. -/
def powerOf? (significand : Nat) (negative : Bool) (digits : List Char) (start : Int) :
    Option (Option Int) :=
  let n := Decimal.digitsValue digits
  if n < 0x80000000 then some (some (if negative then start - n else start + n))
  else if significand ≠ 0 ∧ !negative then none
  else some none

/-- The magnitude of a number that is not an integer. -/
def NumberText.magnitude? (n : NumberText) : Option Float :=
  let (whole, left) := gather 0 n.whole
  let (significand, unread) := gather whole n.fraction
  let start : Int := (left.length : Int) - (n.fraction.length - unread.length : Nat)
  match n.power with
  | none => scale? significand start
  | some (negative, digits) =>
    match powerOf? significand negative digits start with
    | none => none
    | some none => some 0
    | some (some power) => scale? significand power

/-- The integer that is written, if it is one and fits 64 bits. -/
def NumberText.integer? (n : NumberText) : Option Number :=
  if !n.fraction.isEmpty || n.power.isSome then none
  else
    let value := Decimal.digitsValue n.whole
    if n.negative then
      if 0 < value ∧ value ≤ 0x8000000000000000 then some (.negative (-(value : Int))) else none
    else if value < 0x10000000000000000 then some (.natural (UInt64.ofNat value))
    else none

def NumberText.value? (n : NumberText) : Option Number :=
  match n.integer? with
  | some whole => some whole
  | none => n.magnitude?.map fun x => .float (if n.negative then -x else x)

/-! ### Texts -/

def characters? : List Unit16 → Option (List Char)
  | [] => some []
  | .char c :: rest => (characters? rest).map (c :: ·)
  | [.unit n] => if 0xD800 ≤ n ∧ n ≤ 0xDFFF then none else some [Char.ofNat n]
  | .unit n :: .char c :: rest =>
    if 0xD800 ≤ n ∧ n ≤ 0xDFFF then none
    else (characters? rest).map fun cs => Char.ofNat n :: c :: cs
  | .unit n :: .unit m :: rest =>
    if 0xD800 ≤ n ∧ n ≤ 0xDBFF ∧ 0xDC00 ≤ m ∧ m ≤ 0xDFFF then
      (characters? rest).map (Char.ofNat (0x10000 + (n - 0xD800) * 0x400 + (m - 0xDC00)) :: ·)
    else if 0xD800 ≤ n ∧ n ≤ 0xDFFF then none
    else (characters? (.unit m :: rest)).map (Char.ofNat n :: ·)

def textOfUnits? (units : List Unit16) : Option String :=
  (characters? units).map String.ofList

/-! ### Values -/

mutual

def Tree.value? (depth : Nat) : Tree → Option Json
  | .null => some .null
  | .bool b => some (.bool b)
  | .number n => n.value?.map .number
  | .text units => (textOfUnits? units).map .string
  | .array items => if depth = 0 then none else (valuesOf? (depth - 1) items).map .array
  | .object pairs => if depth = 0 then none else (fieldsOf? (depth - 1) pairs).map object

def valuesOf? (depth : Nat) : List Tree → Option (List Json)
  | [] => some []
  | item :: items => do
    let value ← item.value? depth
    let values ← valuesOf? depth items
    return value :: values

def fieldsOf? (depth : Nat) : List (List Unit16 × Tree) → Option (List (String × Json))
  | [] => some []
  | (key, item) :: pairs => do
    let key ← textOfUnits? key
    let value ← item.value? depth
    let fields ← fieldsOf? depth pairs
    return (key, value) :: fields

end

/-- How deep values may be nested. -/
def maxDepth : Nat := 127

/-- The value that a text spells. -/
def read? (text : String) : Option Json :=
  (Tree.ofText? text.toList).bind (·.value? maxDepth)

end Concordance.Json
