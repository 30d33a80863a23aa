import Concordance.Decimal.Literal
import Concordance.Decimal.Shortest
import Concordance.Json.Syntax
import Mathlib.Data.List.DropRight
import Mathlib.Tactic.Ring

/-!
# Shortest decimals are not zero

The shortest decimal of a positive number is positive: zero does not read back as the number, and the grid
that is searched last is finer than the number is small. Its digits begin with a digit that is not zero.
-/

namespace Concordance.Decimal

namespace Dyadic

variable {x : Dyadic} {c : Scaled}

/-- Zero does not read back as a positive number. -/
theorem digits_pos_of_readsBack (hx : 0 < x.significand) (h : x.readsBack c = true) : 0 < c.digits := by
  by_contra hzero
  have hdigits : c.digits = 0 := by omega
  have hgap : x.gapBelow ≤ 2 := by
    unfold gapBelow
    split <;> omega
  have hunit : 0 < Nat.pow 2 x.exponent.toNat * Nat.pow 10 (-c.exponent).toNat :=
    Nat.mul_pos (Nat.pow_pos (by omega)) (Nat.pow_pos (by omega))
  have hlow : 0 < (4 * x.significand - x.gapBelow) *
      (Nat.pow 2 x.exponent.toNat * Nat.pow 10 (-c.exponent).toNat) :=
    Nat.mul_pos (by omega) hunit
  simp only [readsBack, hdigits, Nat.mul_zero, Nat.zero_mul] at h
  split at h
  · simp only [Bool.and_eq_true, decide_eq_true_eq] at h
    omega
  · simp only [Bool.and_eq_true, decide_eq_true_eq] at h
    omega

theorem digits_pos_of_onGrid? (hx : 0 < x.significand) {exponent : Int}
    (h : x.onGrid? exponent = some c) : 0 < c.digits := by
  unfold onGrid? at h
  simp only at h
  split at h
  · next hbelow habove =>
    cases h
    split
    · exact digits_pos_of_readsBack hx hbelow
    · exact digits_pos_of_readsBack hx habove
  · next hbelow _ =>
    cases h
    exact digits_pos_of_readsBack hx hbelow
  · next _ habove =>
    cases h
    exact digits_pos_of_readsBack hx habove
  · cases h

/-- A search for a grid ends on a positive decimal if the finest grid has one below the number. -/
theorem digits_pos_searchGrids (hx : 0 < x.significand) {first : Int} {more : Nat}
    (h : 0 < (x.neighbours (first - more)).1.digits) : 0 < (x.searchGrids first more).digits := by
  induction more generalizing first with
  | zero => simpa [searchGrids] using h
  | succ more ih =>
    rw [searchGrids]
    cases hgrid : x.onGrid? first with
    | some c => exact digits_pos_of_onGrid? hx hgrid
    | none =>
      refine ih ?_
      have heq : first - 1 - (more : Int) = first - ((more + 1 : Nat) : Int) := by omega
      rw [heq]
      exact h

/-- A grid has a positive decimal below a number that is not smaller than its unit. -/
theorem digits_pos_neighbours {exponent : Int}
    (h : x.denominator * 10 ^ exponent.toNat ≤ x.numerator * 10 ^ (-exponent).toNat) :
    0 < (x.neighbours exponent).1.digits :=
  Nat.div_pos h (Nat.mul_pos (Nat.pow_pos (by omega)) (Nat.pow_pos (by omega)))

/-- Moving a small number up until it reaches one. -/
theorem le_mul_pow_placesBelowOne {n d fuel : Nat} (h : d ≤ n * 10 ^ fuel) :
    d ≤ n * 10 ^ placesBelowOne n d fuel := by
  induction fuel generalizing n with
  | zero => exact h
  | succ fuel ih =>
    have hmove : ∀ places, n * 10 ^ (places + 1) = 10 * n * 10 ^ places := by
      intro places
      ring
    rw [placesBelowOne]
    split
    · next hreached => simpa using hreached
    · rw [hmove] at h ⊢
      exact ih h

/-- The first digit of a positive number counts at least its power of ten. -/
theorem pow_length_toDigits_le {n : Nat} (h : 0 < n) : 10 ^ ((Nat.toDigits 10 n).length - 1) ≤ n := by
  by_contra hlt
  have hpositive : 0 < (Nat.toDigits 10 n).length - 1 := by
    by_contra hzero
    rw [show (Nat.toDigits 10 n).length - 1 = 0 by omega] at hlt
    omega
  have hle := (Nat.length_toDigits_le_iff (by decide) hpositive).2 (Nat.not_le.1 hlt)
  omega

/-- A denominator of at most `2 ^ (3 * k)` is at most `10 ^ k`. -/
theorem denominator_le_pow {k : Nat} (h : -(3 * k : Int) ≤ x.exponent) : x.denominator ≤ 10 ^ k :=
  calc
    x.denominator ≤ 2 ^ (3 * k) := Nat.pow_le_pow_right (by omega) (by omega)
    _ = (2 ^ 3) ^ k := Nat.pow_mul 2 3 k
    _ ≤ 10 ^ k := Nat.pow_le_pow_left (by decide) k

/-- The shortest decimal of a positive number is positive. -/
theorem digits_pos_shortest (hx : 0 < x.significand) (hexponent : -1074 ≤ x.exponent) :
    0 < x.shortest.digits := by
  have hnumerator : 0 < x.numerator := Nat.mul_pos hx (Nat.pow_pos (by omega))
  have hdenominator : 0 < x.denominator := Nat.pow_pos (by omega)
  have hmagnitude : x.denominator * 10 ^ x.magnitude.toNat ≤ x.numerator * 10 ^ (-x.magnitude).toNat := by
    unfold magnitude
    split
    · next hlarge =>
      have hpower := pow_length_toDigits_le (Nat.div_pos hlarge hdenominator)
      have hwhole : x.denominator * 10 ^ ((Nat.toDigits 10 x.whole).length - 1) ≤ x.numerator :=
        Nat.le_trans (Nat.mul_le_mul_left _ hpower) (Nat.mul_div_le _ _)
      have hlength := Nat.length_toDigits_pos (b := 10) (n := x.whole)
      have hpositive : ((Nat.toDigits 10 x.whole).length - 1 : Int).toNat =
          (Nat.toDigits 10 x.whole).length - 1 := by omega
      have hnegative : (-((Nat.toDigits 10 x.whole).length - 1 : Int)).toNat = 0 := by omega
      rw [hpositive, hnegative]
      simpa using hwhole
    · next hsmall =>
      -- the denominator is at most `2 ^ 1074`, so the number reaches one soon enough
      have hreached := le_mul_pow_placesBelowOne
        (Nat.le_trans (denominator_le_pow (x := x) (k := 400) (by omega)) (Nat.le_mul_of_pos_left _ hnumerator))
      simpa using hreached
  refine digits_pos_searchGrids hx (digits_pos_neighbours ?_)
  calc
    x.denominator * 10 ^ (x.magnitude - (17 : Nat)).toNat ≤ x.denominator * 10 ^ x.magnitude.toNat :=
      Nat.mul_le_mul_left _ (Nat.pow_le_pow_right (by omega) (by omega))
    _ ≤ x.numerator * 10 ^ (-x.magnitude).toNat := hmagnitude
    _ ≤ x.numerator * 10 ^ (-(x.magnitude - (17 : Nat))).toNat :=
      Nat.mul_le_mul_left _ (Nat.pow_le_pow_right (by omega) (by omega))

end Dyadic

/-! ### Digits -/

theorem isDigit_of_mem_toDigits {n : Nat} {c : Char} (h : c ∈ Nat.toDigits 10 n) :
    Json.isDigit c = true :=
  Nat.isDigit_of_mem_toDigits (by decide) (by decide) h

/-- The digits of a number stand for it. -/
theorem digitsValue_toDigits (n : Nat) : digitsValue (Nat.toDigits 10 n) = n := by
  rw [digitsValue, ← Nat.ofDigitChars_eq_foldl]
  exact Nat.ofDigitChars_toDigits (by decide) (by decide)

/-- The digits of a positive number do not begin with zero. -/
theorem head?_toDigits_ne_zero {n : Nat} (h : 0 < n) : (Nat.toDigits 10 n).head? ≠ some '0' := by
  induction n using Nat.strongRecOn with
  | ind n ih =>
    rw [Nat.toDigits_eq_if (by decide)]
    split
    · next hsmall => simpa using fun hzero => absurd hzero (by omega)
    · next hlarge =>
      have hrest := ih (n / 10) (by omega) (by omega)
      rw [List.head?_append]
      cases hdigits : Nat.toDigits 10 (n / 10) with
      | nil => exact absurd hdigits Nat.toDigits_ne_nil
      | cons c rest =>
        rw [hdigits] at hrest
        exact hrest

/-- Digits that begin with one that is not zero. -/
structure Leading (digits : List Char) : Prop where
  isDigit : ∀ c ∈ digits, Json.isDigit c = true
  nonempty : digits ≠ []
  head : digits.head? ≠ some '0'

theorem leading_toDigits {n : Nat} (h : 0 < n) : Leading (Nat.toDigits 10 n) :=
  ⟨fun _ hc => isDigit_of_mem_toDigits hc, Nat.toDigits_ne_nil, head?_toDigits_ne_zero h⟩

/-- Zeros at the end may be dropped. -/
theorem Leading.rdropWhile {digits : List Char} (h : Leading digits) :
    Leading (digits.rdropWhile (· == '0')) := by
  have hne : digits.rdropWhile (· == '0') ≠ [] := by
    intro hnil
    obtain ⟨c, rest, rfl⟩ := List.exists_cons_of_ne_nil h.nonempty
    have hzero := List.rdropWhile_eq_nil_iff.1 hnil c List.mem_cons_self
    exact h.head (by rw [List.head?_cons, eq_of_beq hzero])
  have hstart := List.rdropWhile_prefix (· == '0') (l := digits)
  refine ⟨fun c hc => h.isDigit c (hstart.subset hc), hne, ?_⟩
  obtain ⟨zeros, hzeros⟩ := hstart
  have hhead := h.head
  rw [← hzeros, List.head?_append_of_ne_nil _ hne] at hhead
  exact hhead

/-- The digits of the scientific form of a positive decimal. -/
theorem Scaled.leading_scientific {c : Scaled} (h : 0 < c.digits) : Leading c.scientific.digits := by
  have hkept := (leading_toDigits h).rdropWhile
  have hne : ¬(List.rdropWhile (· == '0') (Nat.toDigits 10 c.digits)).isEmpty = true := by
    rw [List.isEmpty_iff]
    exact hkept.nonempty
  have hdigits : c.scientific.digits = (Nat.toDigits 10 c.digits).rdropWhile (· == '0') := if_neg hne
  rw [hdigits]
  exact hkept

end Concordance.Decimal
