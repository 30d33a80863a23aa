import Concordance.Decimal.Dyadic

/-!
# JSON values

The fields of an object stand in the ascending order of their keys and have different keys;
`Json.object` puts any list of fields into that form, the last of several equal keys winning. A number
is a natural number, a negative integer or a finite floating-point number.
-/

namespace Concordance

inductive Json.Number where
  | natural (n : UInt64)
  | negative (n : Int)
  | float (x : Float)

inductive Json where
  | null
  | bool (b : Bool)
  | number (n : Json.Number)
  | string (s : String)
  | array (items : List Json)
  | fields (pairs : List (String × Json))

namespace Json

/-- Puts a field among fields in key order, in place of one with the same key. -/
def insertField (key : String) (value : Json) : List (String × Json) → List (String × Json)
  | [] => [(key, value)]
  | (k, v) :: rest =>
    if key < k then (key, value) :: (k, v) :: rest
    else if key = k then (key, value) :: rest
    else (k, v) :: insertField key value rest

/-- Fields in key order, with the last of equal keys. -/
def sortFields (pairs : List (String × Json)) : List (String × Json) :=
  pairs.foldl (fun sorted (key, value) => insertField key value sorted) []

def object (pairs : List (String × Json)) : Json :=
  .fields (sortFields pairs)

def ofNat (n : Nat) : Json :=
  .number (.natural (UInt64.ofNat n))

def ofInt (n : Int) : Json :=
  if n < 0 then .number (.negative n) else ofNat n.toNat

/-- The number `x`, or null if JSON cannot write it. -/
def ofFloat (x : Float) : Json :=
  match Decimal.Reading.ofFloat x with
  | .finite _ _ => .number (.float x)
  | _ => .null

def strings (texts : List String) : Json :=
  .array (texts.map .string)

def get? (key : String) : Json → Option Json
  | .fields pairs => pairs.lookup key
  | _ => none

def text? : Json → Option String
  | .string s => some s
  | _ => none

def items? : Json → Option (List Json)
  | .array items => some items
  | _ => none

def pairs? : Json → Option (List (String × Json))
  | .fields pairs => some pairs
  | _ => none

end Json

end Concordance
