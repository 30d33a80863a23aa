import Concordance.Json.Printer

/-!
# Arguments of a tool

An argument may be left out or be null; if it is there, it has to have the right type, and a wrong one is
reported and not ignored. A whole number may be written with a point.
-/

namespace Concordance.Argument

def given? (arguments : Json) (key : String) : Option Json :=
  match arguments.get? key with
  | none => none
  | some .null => none
  | some value => some value

/-- The message about an argument of a wrong type. -/
def wrongType (key expected : String) (value : Json) : String :=
  "'" ++ key ++ "' must be " ++ expected ++ ", got " ++ value.render

def text (arguments : Json) (key : String) : Except String (Option String) :=
  match given? arguments key with
  | none => .ok none
  | some (.string s) => .ok (some s)
  | some value => .error (wrongType key "a string" value)

def flag (arguments : Json) (key : String) : Except String (Option Bool) :=
  match given? arguments key with
  | none => .ok none
  | some (.bool b) => .ok (some b)
  | some value => .error (wrongType key "a boolean" value)

/-- The integer of 64 bits that a number is. -/
def integerOf? : Json.Number → Option Int
  | .natural n => if n.toNat < 0x8000000000000000 then some n.toNat else none
  | .negative n => some n
  | .float x =>
    match Decimal.Reading.ofFloat x with
    | .finite negative magnitude =>
      if magnitude.isWhole ∧ magnitude.whole < 0x8000000000000000 then
        some (if negative then -(magnitude.whole : Int) else magnitude.whole)
      else none
    | _ => none

def integer (arguments : Json) (key : String) : Except String (Option Int) :=
  match given? arguments key with
  | none => .ok none
  | some (.number n) =>
    match integerOf? n with
    | some i => .ok (some i)
    | none => .error (wrongType key "an integer" (.number n))
  | some value => .error (wrongType key "an integer" value)

end Concordance.Argument
