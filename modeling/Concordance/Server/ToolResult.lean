import Concordance.Json.Printer
import Concordance.Json.Reader

/-!
# Results of a tool

What a tool answers: texts, and whether they tell of an error. A successful answer that is too long
loses results from its end until it is short enough, and says so. The number of bytes that it gives of
itself is that of the answer before this note was written for the last time.
-/

namespace Concordance

structure ToolResult where
  content : List String
  isError : Bool
deriving DecidableEq, Repr

namespace ToolResult

def success (text : String) : ToolResult := ⟨[text], false⟩

def failure (text : String) : ToolResult := ⟨[text], true⟩

def ofJson (value : Json) : ToolResult := success value.render

def setField (key : String) (value : Json) : Json → Json
  | .fields pairs => .fields (Json.insertField key value pairs)
  | other => other

/-- Notes in an answer that results were dropped: in its summary, if there is one. -/
def mark (returned bytes : Nat) (output : Json) : Json :=
  match output.get? "summary" with
  | some (.fields pairs) =>
    let summary := setField "truncated" (.bool true) (.fields pairs)
    let summary := setField "returned" (.ofNat returned) summary
    setField "summary" (setField "responseBytes" (.ofNat bytes) summary) output
  | _ => setField "truncated" (.bool true) output

def keepResults (count : Nat) (output : Json) : Json :=
  match output.get? "results" with
  | some (.array results) => setField "results" (.array (results.take count)) output
  | _ => output

/-- An answer on its way to be short enough. -/
structure Shortening where
  output : Json
  /-- How many results it has. -/
  kept : Nat
  /-- How many bytes it takes. -/
  bytes : Nat

/-- Drops results, of which there are `kept`, while the answer takes more than `limit` bytes. -/
def shorten (limit : Nat) (output : Json) (bytes : Nat) : (kept : Nat) → Shortening
  | 0 => ⟨output, 0, bytes⟩
  | kept + 1 =>
    if bytes ≤ limit then ⟨output, kept + 1, bytes⟩
    else
      let shorter := mark kept bytes (keepResults kept output)
      shorten limit shorter shorter.render.utf8ByteSize kept

/-- The results that a text holds, with the whole value of the text. -/
def resultsIn? (text : String) : Option (Json × List Json) := do
  let output ← Json.read? text
  let results ← (← output.get? "results").items?
  return (output, results)

/-- An answer cut down to `limit` bytes, if it is a successful one with results; zero is no limit. -/
def truncate (limit : Nat) (result : ToolResult) : ToolResult :=
  if limit = 0 || result.isError then result
  else
    match result.content with
    | [] => result
    | text :: _ =>
      if text.utf8ByteSize ≤ limit then result
      else
        match resultsIn? text with
        | none => result
        | some (output, results) =>
          let short := shorten limit output text.utf8ByteSize results.length
          ofJson (mark short.kept short.bytes short.output)

end ToolResult

end Concordance
