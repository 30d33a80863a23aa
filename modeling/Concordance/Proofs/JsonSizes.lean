import Concordance.Proofs.JsonTexts
import Concordance.Server.ToolResult
import Mathlib.Data.String.Basic

/-!
# How long a written value is

A number takes a byte for each of its digits, and the more the greater it is. An object that differs
from another in one field differs from it in length as the values of that field do (`size_setField`).
-/

namespace Concordance.Json

open String (utf8Len)

def size (v : Json) : Nat :=
  utf8Len v.write

theorem utf8ByteSize_render (v : Json) : v.render.utf8ByteSize = v.size :=
  String.utf8ByteSize_ofList v.write

/-! ### Numbers -/

def digitCount (n : Nat) : Nat :=
  (Nat.toDigits 10 n).length

theorem digitCount_mono {m n : Nat} (h : m ≤ n) : digitCount m ≤ digitCount n := by
  have hpos : 0 < digitCount n := Nat.length_toDigits_pos
  rw [digitCount, Nat.length_toDigits_le_iff (by decide) hpos]
  exact Nat.lt_of_le_of_lt h ((Nat.length_toDigits_le_iff (by decide) hpos).1 (Nat.le_refl _))

theorem utf8Size_of_isDigit {c : Char} (h : isDigit c = true) : c.utf8Size = 1 := by
  rw [isDigit, Bool.and_eq_true, decide_eq_true_eq, decide_eq_true_eq] at h
  exact Char.utf8Size_eq_one_iff.2 (UInt32.le_trans h.2 (by decide))

theorem utf8Len_of_isDigit {cs : List Char} (h : ∀ c ∈ cs, isDigit c = true) : utf8Len cs = cs.length := by
  induction cs with
  | nil => rfl
  | cons c cs ih =>
    rw [String.utf8Len_cons, utf8Size_of_isDigit (h c List.mem_cons_self),
      ih fun d hd => h d (List.mem_cons_of_mem _ hd), List.length_cons]

/-- A number that fits 64 bits takes a byte for each digit. -/
theorem size_ofNat {n : Nat} (h : n < 2 ^ 64) : (ofNat n).size = digitCount n := by
  have hvalue : (UInt64.ofNat n).toNat = n := UInt64.toNat_ofNat_of_lt' h
  rw [size, ofNat, write, Number.write, hvalue]
  exact utf8Len_of_isDigit fun c hc => Decimal.isDigit_of_mem_toDigits hc

/-! ### Fields -/

theorem writePairs_cons_of_ne_nil (key : String) (value : Json) {pairs : List (String × Json)}
    (h : pairs ≠ []) :
    writePairs ((key, value) :: pairs) = quote key ++ ':' :: value.write ++ ',' :: writePairs pairs := by
  obtain ⟨next, pairs, rfl⟩ := List.exists_cons_of_ne_nil h
  exact writePairs_cons_cons key value next pairs

theorem insertField_ne_nil (key : String) (value : Json) (pairs : List (String × Json)) :
    insertField key value pairs ≠ [] := by
  cases pairs with
  | nil => exact List.cons_ne_nil _ _
  | cons pair pairs =>
    rw [insertField]
    split
    · exact List.cons_ne_nil _ _
    · split
      · exact List.cons_ne_nil _ _
      · exact List.cons_ne_nil _ _

/-- With another value in a field, the text of an object grows or shrinks by the difference of the two values
alone. -/
theorem utf8Len_writePairs_insertField (key : String) (a b : Json) (pairs : List (String × Json)) :
    utf8Len (writePairs (insertField key a pairs)) + b.size =
      utf8Len (writePairs (insertField key b pairs)) + a.size := by
  -- the field comes first, before a comma or at the end
  have hfirst (rest : List (String × Json)) :
      utf8Len (writePairs ((key, a) :: rest)) + b.size =
        utf8Len (writePairs ((key, b) :: rest)) + a.size := by
    cases rest with
    | nil =>
      simp only [writePairs, String.utf8Len_append, String.utf8Len_cons, size]
      omega
    | cons next rest =>
      simp only [writePairs_cons_of_ne_nil key _ (List.cons_ne_nil next rest), String.utf8Len_append,
        String.utf8Len_cons, size]
      omega
  induction pairs with
  | nil => exact hfirst []
  | cons pair pairs ih =>
    obtain ⟨k, v⟩ := pair
    rw [insertField, insertField]
    split
    · exact hfirst _
    · split
      · exact hfirst _
      · rw [writePairs_cons_of_ne_nil k v (insertField_ne_nil key a pairs),
          writePairs_cons_of_ne_nil k v (insertField_ne_nil key b pairs)]
        simp only [String.utf8Len_append, String.utf8Len_cons]
        omega

/-- Objects that differ in one field differ in length as its values do. -/
theorem size_setField (key : String) (a b : Json) (pairs : List (String × Json)) :
    (ToolResult.setField key a (.fields pairs)).size + b.size =
      (ToolResult.setField key b (.fields pairs)).size + a.size := by
  have h := utf8Len_writePairs_insertField key a b pairs
  simp only [ToolResult.setField, size, write, String.utf8Len_append, String.utf8Len_cons] at h ⊢
  omega

end Concordance.Json
