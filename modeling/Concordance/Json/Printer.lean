import Concordance.Decimal.Shortest
import Concordance.Json.Basic

/-!
# Writing JSON

Two layouts: on one line without white space, and over several lines, indented by two spaces. Only the
quotation mark, the backslash and the controls below U+0020 are escaped, so a written value holds no
line feed of its own.
-/

namespace Concordance.Json

def hexDigit (n : Nat) : Char :=
  Nat.digitChar n

def escape (c : Char) : List Char :=
  if c = '"' then ['\\', '"']
  else if c = '\\' then ['\\', '\\']
  else if c.toNat < 0x20 then
    if c = '\n' then ['\\', 'n']
    else if c = '\r' then ['\\', 'r']
    else if c = '\t' then ['\\', 't']
    else if c.toNat = 8 then ['\\', 'b']
    else if c.toNat = 12 then ['\\', 'f']
    else ['\\', 'u', '0', '0', hexDigit (c.toNat / 16), hexDigit (c.toNat % 16)]
  else [c]

def quote (s : String) : List Char :=
  '"' :: s.toList.flatMap escape ++ ['"']

def Number.write : Number → List Char
  | .natural n => Nat.toDigits 10 n.toNat
  | .negative n => '-' :: Nat.toDigits 10 n.natAbs
  | .float x => ((Decimal.write? x).getD "null").toList

mutual

/-- A value on one line. -/
def write : Json → List Char
  | .null => "null".toList
  | .bool b => if b then "true".toList else "false".toList
  | .number n => n.write
  | .string s => quote s
  | .array items => '[' :: writeItems items ++ [']']
  | .fields pairs => '\x7b' :: writePairs pairs ++ ['\x7d']

def writeItems : List Json → List Char
  | [] => []
  | [item] => write item
  | item :: items => write item ++ ',' :: writeItems items

def writePairs : List (String × Json) → List Char
  | [] => []
  | [(key, value)] => quote key ++ ':' :: write value
  | (key, value) :: pairs => quote key ++ ':' :: write value ++ ',' :: writePairs pairs

end

/-- A value on one line. -/
def render (value : Json) : String :=
  String.ofList value.write

/-- A new line and the white space before an entry at this depth. -/
def newLine (depth : Nat) : List Char :=
  '\n' :: List.replicate (2 * depth) ' '

mutual

/-- A value over several lines, at this depth. -/
def writeIndented (depth : Nat) : Json → List Char
  | .array (item :: items) =>
    '[' :: writeIndentedItems (depth + 1) (item :: items) ++ newLine depth ++ [']']
  | .fields (pair :: pairs) =>
    '\x7b' :: writeIndentedPairs (depth + 1) (pair :: pairs) ++ newLine depth ++ ['\x7d']
  | .null => "null".toList
  | .bool b => if b then "true".toList else "false".toList
  | .number n => n.write
  | .string s => quote s
  | .array [] => "[]".toList
  | .fields [] => ['\x7b', '\x7d']

def writeIndentedItems (depth : Nat) : List Json → List Char
  | [] => []
  | [item] => newLine depth ++ writeIndented depth item
  | item :: items => newLine depth ++ writeIndented depth item ++ ',' :: writeIndentedItems depth items

def writeIndentedPairs (depth : Nat) : List (String × Json) → List Char
  | [] => []
  | [(key, value)] => newLine depth ++ quote key ++ ": ".toList ++ writeIndented depth value
  | (key, value) :: pairs =>
    newLine depth ++ quote key ++ ": ".toList ++ writeIndented depth value ++
      ',' :: writeIndentedPairs depth pairs

end

def renderIndented (value : Json) : String :=
  String.ofList (value.writeIndented 0)

end Concordance.Json
