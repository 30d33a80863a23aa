import Concordance.Proofs.JsonFields
import Concordance.Server.Argument
import Mathlib.Algebra.Order.Field.Basic
import Mathlib.Algebra.Field.Rat
import Mathlib.Algebra.Order.Ring.Unbundled.Rat
import Mathlib.Tactic.Linarith
import Mathlib.Tactic.Positivity
import Mathlib.Tactic.NormNum

/-!
# What numbers of JSON are worth

A number of JSON is a natural number, a negative integer or a floating-point number; whichever it is, it is
worth a rational number. An argument is read as the integer that it is worth, however it is written.
-/

namespace Concordance

/-! ### Floating-point numbers -/

namespace Decimal

namespace Dyadic

def value (x : Dyadic) : ℚ :=
  x.significand * 2 ^ x.exponent

theorem value_nonneg (x : Dyadic) : 0 ≤ x.value := by
  apply mul_nonneg (Nat.cast_nonneg x.significand)
  apply zpow_nonneg
  norm_num

theorem denominator_pos (x : Dyadic) : 0 < x.denominator := by
  apply Nat.pow_pos
  decide

/-- The fraction is worth the number. -/
theorem value_mul_denominator (x : Dyadic) : x.value * x.denominator = x.numerator := by
  rw [value, denominator, numerator]
  obtain ⟨k, hk | hk⟩ := x.exponent.eq_nat_or_neg
  · -- no power is left below the line
    rw [hk, Int.toNat_natCast, zpow_natCast, show (-(k : Int)).toNat = 0 by omega]
    simp
  · rw [hk, neg_neg, Int.toNat_natCast, show (-(k : Int)).toNat = 0 by omega, zpow_neg, zpow_natCast]
    have hpow : (2 : ℚ) ^ k ≠ 0 := by positivity
    simp [hpow]

/-- The number is a natural number if the fraction divides out to it. -/
theorem value_eq_natCast_iff {x : Dyadic} {v : Nat} :
    x.value = v ↔ x.isWhole = true ∧ x.whole = v := by
  have hpos := x.denominator_pos
  have hne : (x.denominator : ℚ) ≠ 0 := Nat.cast_ne_zero.2 (Nat.ne_of_gt hpos)
  have hfraction : x.value = v ↔ x.numerator = v * x.denominator := by
    rw [← mul_left_inj' hne, value_mul_denominator]
    norm_cast
  rw [hfraction, isWhole, whole, decide_eq_true_eq]
  constructor
  · intro h
    rw [h]
    exact ⟨Nat.mul_mod_left _ _, Nat.mul_div_cancel _ hpos⟩
  · rintro ⟨hwhole, rfl⟩
    exact (Nat.div_mul_cancel (Nat.dvd_of_mod_eq_zero hwhole)).symm

end Dyadic

def Reading.value? : Reading → Option ℚ
  | .finite negative magnitude => some (if negative then -magnitude.value else magnitude.value)
  | _ => none

end Decimal

/-! ### Numbers of JSON -/

namespace Json

def Number.value? : Number → Option ℚ
  | .natural n => some n.toNat
  | .negative n => some n
  | .float x => (Decimal.Reading.ofFloat x).value?

/-- What is held as a negative integer is below zero. -/
def Number.Proper : Number → Prop
  | .negative n => n < 0
  | _ => True

/-- Numbers that are read are proper. -/
theorem NumberText.proper_of_value? {text : NumberText} {n : Number} (h : text.value? = some n) :
    n.Proper := by
  rw [NumberText.value?] at h
  split at h
  · next whole hwhole =>
      cases h
      rw [NumberText.integer?] at hwhole
      split at hwhole
      · cases hwhole
      · dsimp only at hwhole
        split at hwhole
        · split at hwhole
          · next hrange =>
              cases hwhole
              show -(_ : Int) < 0
              omega
          · cases hwhole
        · split at hwhole
          · cases hwhole
            trivial
          · cases hwhole
  · obtain ⟨x, -, rfl⟩ := Option.map_eq_some_iff.1 h
    trivial

theorem proper_of_value? {depth : Nat} {tree : Tree} {n : Number}
    (h : tree.value? depth = some (.number n)) : n.Proper := by
  cases tree with
  | number text =>
      obtain ⟨m, hm, heq⟩ := Option.map_eq_some_iff.1 h
      cases heq
      exact NumberText.proper_of_value? hm
  | _ => simp [Tree.value?, object] at h

/-- The numbers among the fields of a value are proper. -/
def HasProperFields (v : Json) : Prop :=
  ∀ key n, v.get? key = some (.number n) → n.Proper

/-- Whatever text a value is read from, the numbers among its fields are proper. -/
theorem hasProperFields_of_value? {depth : Nat} {tree : Tree} {v : Json}
    (h : tree.value? depth = some v) : v.HasProperFields := by
  intro key n hn
  obtain ⟨_, _, hitem⟩ := exists_value?_of_get? h hn
  exact proper_of_value? hitem

end Json

/-! ### Integers -/

namespace Argument

open Decimal Json

variable {v : Nat}

/-- A natural number is an integer if it fits 63 bits. -/
theorem integerOf?_natural_eq_some_iff {n : UInt64} :
    integerOf? (.natural n) = some (v : Int) ↔ (Number.natural n).value? = some (v : ℚ) ∧ v < 2 ^ 63 := by
  have hvalue : (Number.natural n).value? = some (v : ℚ) ↔ n.toNat = v := by
    rw [Number.value?, Option.some_inj, Nat.cast_inj]
  rw [hvalue, integerOf?]
  split
  · next hlt =>
      rw [Option.some_inj, Int.ofNat_inj]
      constructor
      · rintro rfl
        exact ⟨rfl, hlt⟩
      · exact fun h => h.1
  · next hge =>
      refine iff_of_false (by simp) ?_
      rintro ⟨rfl, hlt⟩
      exact hge hlt

theorem integerOf?_negative_ne_some {n : Int} (hneg : n < 0) : integerOf? (.negative n) ≠ some (v : Int) := by
  intro h
  have heq : n = v := Option.some.inj h
  omega

theorem value?_negative_ne_some {n : Int} (hneg : n < 0) : (Number.negative n).value? ≠ some (v : ℚ) := by
  intro h
  have heq : (n : ℚ) = (v : ℤ) := Option.some.inj h
  have hint : n = v := Int.cast_inj.1 heq
  omega

/-- What is not below zero is read if it is whole and not too great. -/
theorem integerOf?_float_eq_some_iff {x : Float} {magnitude : Decimal.Dyadic}
    (hx : Reading.ofFloat x = .finite false magnitude) :
    integerOf? (.float x) = some (v : Int) ↔ (Number.float x).value? = some (v : ℚ) ∧ v < 2 ^ 63 := by
  have hvalue : (Number.float x).value? = some (v : ℚ) ↔ magnitude.isWhole = true ∧ magnitude.whole = v := by
    rw [← Dyadic.value_eq_natCast_iff, Number.value?, hx]
    exact Option.some_inj
  rw [hvalue, integerOf?, hx]
  dsimp only
  split
  · next hwhole =>
      rw [if_neg (by decide), Option.some_inj, Int.ofNat_inj]
      constructor
      · rintro rfl
        exact ⟨⟨hwhole.1, rfl⟩, hwhole.2⟩
      · exact fun h => h.1.2
  · next hwhole =>
      refine iff_of_false (by simp) ?_
      rintro ⟨⟨his, rfl⟩, hlt⟩
      exact hwhole ⟨his, hlt⟩

/-- What is at most zero is not read as a positive integer, nor is it worth one. -/
theorem integerOf?_float_ne_some {x : Float} {magnitude : Decimal.Dyadic}
    (hx : Reading.ofFloat x = .finite true magnitude) (hv : 1 ≤ v) :
    integerOf? (.float x) ≠ some (v : Int) ∧ (Number.float x).value? ≠ some (v : ℚ) := by
  rw [integerOf?, Number.value?, hx]
  constructor
  · dsimp only
    split
    · intro h
      have heq : -(magnitude.whole : Int) = v := Option.some.inj h
      omega
    · simp
  · intro h
    have heq : -magnitude.value = (v : ℚ) := Option.some.inj h
    have hnonneg := magnitude.value_nonneg
    have hpos : (0 : ℚ) < v := Nat.cast_pos.2 hv
    linarith

/-- A number is read as a positive integer of 63 bits if it is worth that integer. -/
theorem integerOf?_eq_some_iff {n : Json.Number} (hproper : n.Proper) (hv : 1 ≤ v) :
    integerOf? n = some (v : Int) ↔ n.value? = some (v : ℚ) ∧ v < 2 ^ 63 := by
  cases n with
  | natural n => exact integerOf?_natural_eq_some_iff
  | negative n =>
      exact iff_of_false (integerOf?_negative_ne_some hproper) fun h => value?_negative_ne_some hproper h.1
  | float x =>
      cases hx : Reading.ofFloat x with
      | notANumber => simp [integerOf?, Number.value?, hx, Reading.value?]
      | infinite negative => simp [integerOf?, Number.value?, hx, Reading.value?]
      | finite negative magnitude =>
          cases negative with
          | true =>
              have hne := integerOf?_float_ne_some hx hv
              exact iff_of_false hne.1 fun h => hne.2 h.1
          | false => exact integerOf?_float_eq_some_iff hx

end Argument

end Concordance
