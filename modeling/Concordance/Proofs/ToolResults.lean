import Concordance.Proofs.JsonFields
import Concordance.Server.ToolResult

/-!
# Answers cut down

An answer that is too long is read back, loses results and gets notes. Everything else that it tells stays as
it was (`truncate_ofJson`).
-/

namespace Concordance.ToolResult

open Json

/-! ### Changing a field -/

theorem get?_setField_of_ne {key other : String} (h : other ≠ key) (value output : Json) :
    (setField key value output).get? other = output.get? other := by
  cases output with
  | fields pairs => exact (lookup_insertField key other value pairs).trans (if_neg h)
  | _ => rfl

theorem get?_setField_self {output found : Json} {other : String} (h : output.get? other = some found)
    (key : String) (value : Json) : (setField key value output).get? key = some value := by
  cases output with
  | fields pairs => exact (lookup_insertField key key value pairs).trans (if_pos rfl)
  | _ => cases h

/-! ### What stays -/

/-- What an answer tells besides its results, and its summary besides the notes in it, stays the same. -/
structure Keeps (before after : Json) : Prop where
  get? : ∀ key, key ≠ "results" → key ≠ "summary" → key ≠ "truncated" → after.get? key = before.get? key
  summary : ∀ key, key ≠ "truncated" → key ≠ "returned" → key ≠ "responseBytes" →
    (after.get? "summary").bind (·.get? key) = (before.get? "summary").bind (·.get? key)

variable {before output after : Json}

theorem Keeps.refl (output : Json) : Keeps output output where
  get? _ _ _ _ := rfl
  summary _ _ _ _ := rfl

theorem Keeps.trans (h : Keeps before output) (h' : Keeps output after) : Keeps before after where
  get? key hresults hsummary htruncated :=
    (h'.get? key hresults hsummary htruncated).trans (h.get? key hresults hsummary htruncated)
  summary key htruncated hreturned hbytes :=
    (h'.summary key htruncated hreturned hbytes).trans (h.summary key htruncated hreturned hbytes)

theorem keeps_keepResults (count : Nat) (output : Json) : Keeps output (keepResults count output) := by
  rw [keepResults]
  split
  · exact {
      get? := fun key hresults _ _ => get?_setField_of_ne hresults _ _
      summary := fun key _ _ _ => by rw [get?_setField_of_ne (by decide)] }
  · exact Keeps.refl output

theorem keeps_mark (returned bytes : Nat) (output : Json) : Keeps output (mark returned bytes output) := by
  rw [mark]
  split
  · next pairs hsummary =>
    refine ⟨fun key _ hkey _ => get?_setField_of_ne hkey _ _, fun key htruncated hreturned hbytes => ?_⟩
    rw [get?_setField_self hsummary, hsummary, Option.bind_some, Option.bind_some,
      get?_setField_of_ne hbytes, get?_setField_of_ne hreturned, get?_setField_of_ne htruncated]
  · exact {
      get? := fun key _ _ htruncated => get?_setField_of_ne htruncated _ _
      summary := fun key _ _ _ => by rw [get?_setField_of_ne (by decide)] }

/-- A text holds results if it is read as a value with an array of them. -/
theorem resultsIn?_eq_some {text : String} {results : List Json}
    (h : resultsIn? text = some (output, results)) :
    Json.read? text = some output ∧ output.get? "results" = some (.array results) := by
  obtain ⟨value, hvalue, h⟩ := Option.bind_eq_some_iff.1 h
  obtain ⟨field, hfield, h⟩ := Option.bind_eq_some_iff.1 h
  obtain ⟨items, hitems, h⟩ := Option.bind_eq_some_iff.1 h
  cases h
  cases field with
  | array items =>
    cases hitems
    exact ⟨hvalue, hfield⟩
  | _ => cases hitems

end Concordance.ToolResult
