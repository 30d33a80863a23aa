import Concordance.Text.Utf8

/-!
# The order of texts is that of their bytes

Texts are compared character by character. Comparing their bytes comes to the same
(`encode_lt_encode_iff`), since of two characters the greater one has the greater bytes, whatever
follows them.
-/

namespace Concordance.Text

/-! ### One character -/

/-- The smaller first byte decides. -/
theorem cons_lt_cons_of_lt {m n : Nat} (h : m < n) (hn : n < 256) (xs ys : List UInt8) :
    UInt8.ofNat m :: xs < UInt8.ofNat n :: ys := by
  refine List.cons_lt_cons_iff.2 (.inl (UInt8.lt_iff_toNat_lt.2 ?_))
  rwa [UInt8.toNat_ofNat_of_lt' (Nat.lt_trans h hn), UInt8.toNat_ofNat_of_lt' hn]

/-- Where the first bytes may be the same, those behind them decide. -/
theorem cons_lt_cons_of_le {m n : Nat} (h : m ≤ n) (hn : n < 256) {xs ys : List UInt8}
    (hrest : m = n → xs < ys) : UInt8.ofNat m :: xs < UInt8.ofNat n :: ys := by
  rcases Nat.lt_or_eq_of_le h with hlt | heq
  · exact cons_lt_cons_of_lt hlt hn xs ys
  · rw [heq]
    exact List.cons_lt_cons_iff.2 (.inr ⟨rfl, hrest heq⟩)

/-- The bytes of a smaller character are smaller, whatever stands behind them. -/
theorem utf8EncodeChar_append_lt {c d : Char} (h : c < d) (xs ys : List UInt8) :
    String.utf8EncodeChar c ++ xs < String.utf8EncodeChar d ++ ys := by
  have hlt : c.val.toNat < d.val.toNat := UInt32.lt_iff_toNat_lt.1 h
  have hbound : d.val.toNat < 0xD800 ∨ 0xDFFF < d.val.toNat ∧ d.val.toNat < 0x110000 := d.valid
  unfold String.utf8EncodeChar
  simp only
  generalize c.val.toNat = m at hlt ⊢
  generalize d.val.toNat = n at hlt hbound ⊢
  -- the longer form has the greater first byte; of one length, the highest bits come first
  split
  · split
    · exact cons_lt_cons_of_lt hlt (by omega) _ _
    split
    · exact cons_lt_cons_of_lt (by omega) (by omega) _ _
    split
    · exact cons_lt_cons_of_lt (by omega) (by omega) _ _
    · exact cons_lt_cons_of_lt (by omega) (by omega) _ _
  rw [if_neg (show ¬n ≤ 0x7f by omega)]
  split
  · split
    · exact cons_lt_cons_of_le (by omega) (by omega) fun _ =>
        cons_lt_cons_of_lt (by omega) (by omega) _ _
    split
    · exact cons_lt_cons_of_lt (by omega) (by omega) _ _
    · exact cons_lt_cons_of_lt (by omega) (by omega) _ _
  rw [if_neg (show ¬n ≤ 0x7ff by omega)]
  split
  · split
    · exact cons_lt_cons_of_le (by omega) (by omega) fun _ =>
        cons_lt_cons_of_le (by omega) (by omega) fun _ =>
          cons_lt_cons_of_lt (by omega) (by omega) _ _
    · exact cons_lt_cons_of_lt (by omega) (by omega) _ _
  · rw [if_neg (show ¬n ≤ 0xffff by omega)]
    exact cons_lt_cons_of_le (by omega) (by omega) fun _ =>
      cons_lt_cons_of_le (by omega) (by omega) fun _ =>
        cons_lt_cons_of_le (by omega) (by omega) fun _ =>
          cons_lt_cons_of_lt (by omega) (by omega) _ _

/-! ### Texts -/

/-- Characters and their bytes are ordered alike: UTF-8 keeps the order of code points. -/
theorem encodeChars_lt {cs ds : List Char} (h : cs < ds) : encodeChars cs < encodeChars ds := by
  induction ds generalizing cs with
  | nil => exact absurd h (List.not_lt_nil cs)
  | cons d ds ih =>
    rw [encodeChars, encodeChars, List.flatMap_cons]
    cases cs with
    | nil =>
      obtain ⟨b, bytes, hbytes⟩ := List.exists_cons_of_ne_nil (String.utf8EncodeChar_ne_nil (c := d))
      rw [hbytes]
      exact List.nil_lt_cons _ _
    | cons c cs =>
      rw [List.flatMap_cons]
      rcases List.cons_lt_cons_iff.1 h with hlt | ⟨rfl, hrest⟩
      · exact utf8EncodeChar_append_lt hlt _ _
      · exact List.append_left_lt (ih hrest)

/-- The smaller text is the one with the smaller bytes. -/
theorem encode_lt_encode_iff {s t : String} : encode s < encode t ↔ s < t := by
  constructor
  · intro h
    refine String.not_le.1 fun hle => ?_
    by_cases heq : t = s
    · subst heq
      exact List.lt_irrefl _ h
    · have hlt : t < s := String.not_le.1 fun hge => heq (String.le_antisymm hle hge)
      exact List.lt_asymm h (encodeChars_lt hlt)
  · exact fun h => encodeChars_lt h

theorem encode_le_encode_iff {s t : String} : encode s ≤ encode t ↔ s ≤ t := by
  rw [← List.not_lt, ← String.not_lt, encode_lt_encode_iff]

end Concordance.Text
