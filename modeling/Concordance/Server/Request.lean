import Concordance.Json.Reader
import Concordance.Text.Blank

/-!
# Requests

A request is an object of JSON with known fields, or an array with their values in order. No known field
may come twice; other fields have to be well formed and are not looked at. Without an id, or with the id
null, a request wants no answer.
-/

namespace Concordance

open Text

structure Request where
  id : Option Json
  method : String
  params : Option Json

namespace Request

/-- A value, unless it is null. -/
def unlessNull : Json → Option Json
  | .null => none
  | value => some value

/-- The parts of a request: the version of the protocol, the id, the method and the parameters. -/
def ofParts? (version : Json) (id method params : Json) : Option Request := do
  let _ ← version.text?
  return ⟨unlessNull id, ← method.text?, unlessNull params⟩

/-- How deep the fields of a request may be nested. -/
def fieldDepth : Nat := Json.maxDepth - 1

/-- The value of a field with this key, null if there is none; the field may come once. -/
def field? (key : String) (pairs : List (String × Json.Tree)) : Option Json :=
  match pairs.filter fun (k, _) => k == key with
  | [] => some .null
  | [(_, tree)] => tree.value? fieldDepth
  | _ => none

def ofTree? : Json.Tree → Option Request
  | .object pairs => do
    let pairs ← pairs.mapM fun (key, tree) => (Json.textOfUnits? key).map fun key => (key, tree)
    ofParts? (← field? "jsonrpc" pairs) (← field? "id" pairs) (← field? "method" pairs)
      (← field? "params" pairs)
  | .array [version, id, method] => do
    ofParts? (← version.value? fieldDepth) (← id.value? fieldDepth) (← method.value? fieldDepth) .null
  | .array [version, id, method, params] => do
    ofParts? (← version.value? fieldDepth) (← id.value? fieldDepth) (← method.value? fieldDepth)
      (← params.value? fieldDepth)
  | _ => none

def read? (line : List Char) : Option Request :=
  (Json.Tree.ofText? line).bind ofTree?

end Request

end Concordance
