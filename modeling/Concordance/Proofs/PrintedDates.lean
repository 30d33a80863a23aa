import Concordance.Calendar.Checked
import Concordance.Proofs.Dates
import Concordance.Proofs.ShortestDecimals

/-!
# Minutes as they are printed

A minute is printed with its date, its hour and its own number. From the text the numbers are read back, and
they tell in which minute a second lies. The computation never leaves 64 bits, whichever second they count.
-/

namespace Concordance.Calendar

/-! ### Words of 64 bits -/

theorem word?_of_mem {n : Int} (h : -0x8000000000000000 ≤ n ∧ n < 0x8000000000000000) : word? n = some n :=
  if_pos h

theorem word?_bind {n : Int} (h : -0x8000000000000000 ≤ n ∧ n < 0x8000000000000000) {α : Type}
    (f : Int → Option α) : (word? n >>= f) = f n := by
  rw [word?_of_mem h]
  rfl

theorem some_bind {α β : Type} (a : α) (f : α → Option β) : (some a >>= f) = f a :=
  rfl

theorem count?_bind {n : Int} (h : 0 ≤ n ∧ n < 0x100000000) {α : Type} (f : Nat → Option α) :
    (count? n >>= f) = f n.toNat := by
  rw [count?, if_pos h]
  rfl

variable {day : Nat}

theorem checkedYearOfEra_eq (h : day < daysPerEra) : checkedYearOfEra day = some (yearOfEra day : Int) := by
  have hday : day < 146097 := h
  simp (disch := omega) only [checkedYearOfEra, word?_bind, Int.tdiv_eq_ediv_of_nonneg]
  rw [word?_of_mem (by omega), yearOfEra]
  congr 1
  omega

theorem checkedDayOfYear_eq (h : day < daysPerEra) :
    checkedDayOfYear day (yearOfEra day) = some (dayOfYear day : Int) := by
  have hday : day < 146097 := h
  obtain ⟨hyear, -, -⟩ := yearOfEra_bounds h
  have hplace := yearStart_add_dayOfYear h
  rw [yearStart, Nat.div_eq_of_lt hyear] at hplace
  simp (disch := omega) only [checkedDayOfYear, word?_bind, Int.tdiv_eq_ediv_of_nonneg]
  rw [word?_of_mem (by omega)]
  congr 1
  omega

theorem fromMarch_cast (ofYear : Nat) : (((5 * ofYear + 2) / 153 : Nat) : Int) = (5 * ofYear + 2) / 153 := by
  push_cast
  rfl

theorem monthOf_cast (ofYear : Nat) : (monthOf ofYear : Int) =
    if ((5 * ofYear + 2) / 153 : Int) < 10 then ((5 * ofYear + 2) / 153 + 3 : Int)
    else (5 * ofYear + 2) / 153 - 9 := by
  simp only [monthOf, ← fromMarch_cast]
  split <;> split <;> omega

theorem dayOfMonth_cast (ofYear : Nat) :
    (dayOfMonth ofYear : Int) = ofYear - (153 * ((5 * ofYear + 2) / 153) + 2) / 5 + 1 := by
  -- the month begins no later than the day, so nothing is cut off at zero
  have hstart : (153 * ((5 * ofYear + 2) / 153) + 2) / 5 ≤ ofYear := by omega
  rw [dayOfMonth, ← fromMarch_cast]
  omega

/-- The date is found unless the first step, to the beginning of an era, leaves the 64 bits. -/
theorem checkedDate_eq {days : Int}
    (h : -0x8000000000000000 ≤ days ∧ days + daysBeforeEpoch < 0x8000000000000000) :
    checkedDate days = some (dateOfDay days) := by
  have hpos : (0 : Int) < daysPerEra := by decide
  obtain ⟨n, hn⟩ := Int.eq_ofNat_of_zero_le (Int.emod_nonneg (days + daysBeforeEpoch) hpos.ne')
  have hlt : n < daysPerEra := by
    have := Int.emod_lt_of_pos (days + daysBeforeEpoch) hpos
    omega
  have hyear := (yearOfEra_bounds hlt).1
  have hofYear : dayOfYear n < 366 := by
    have hlength := dayOfYear_lt hlt
    rw [yearLength] at hlength
    split at hlength <;> omega
  have hdate : dateOfDay days =
      dateInYear (yearOfEra n + (days + daysBeforeEpoch) / daysPerEra * 400) (dayOfYear n) := by
    show (⟨_, _, _⟩ : Date) = _
    rw [hn]
    rfl
  have hday : n < 146097 := hlt
  rw [hdate, checkedDate, word?_bind (by omega), word?_bind (by rw [daysPerEra]; omega), hn,
    word?_bind (by omega), checkedYearOfEra_eq hlt, some_bind, checkedDayOfYear_eq hlt, some_bind]
  have hera : -0x10000000000000 < (days + daysBeforeEpoch) / daysPerEra ∧
      (days + daysBeforeEpoch) / daysPerEra < 0x10000000000000 := by
    rw [daysPerEra]
    omega
  generalize (days + daysBeforeEpoch) / daysPerEra = era at hera ⊢
  generalize yearOfEra n = year at hyear ⊢
  generalize dayOfYear n = ofYear at hofYear ⊢
  simp (disch := omega) only [word?_bind, Int.tdiv_eq_ediv_of_nonneg]
  have hcounts : dayOfMonth ofYear < 0x100000000 ∧ monthOf ofYear < 0x100000000 := by
    simp only [dayOfMonth, monthOf]
    split <;> omega
  rw [← dayOfMonth_cast, ← monthOf_cast, count?_bind (by omega), count?_bind (by omega), Int.toNat_natCast,
    Int.toNat_natCast]
  rfl

/-- The minute is found for every second that 64 bits count. -/
theorem checkedMinute_eq {seconds : Int} (h : -0x8000000000000000 ≤ seconds ∧ seconds < 0x8000000000000000) :
    checkedMinute seconds = some (writeMinute seconds) := by
  have hdate : checkedDate (seconds / secondsPerDay) = some (dateOfDay (seconds / secondsPerDay)) := by
    apply checkedDate_eq
    rw [secondsPerDay, daysBeforeEpoch]
    omega
  have hsmall : 0 ≤ seconds % secondsPerDay ∧ seconds % secondsPerDay < 86400 := by
    rw [secondsPerDay]
    omega
  rw [checkedMinute, word?_bind (by rw [secondsPerDay]; omega), word?_bind (by omega), hdate, some_bind,
    writeMinute]
  generalize seconds % secondsPerDay = ofDay at hsmall ⊢
  simp (disch := omega) only [word?_bind, Int.tdiv_eq_ediv_of_nonneg, Int.tmod_eq_emod_of_nonneg]
  rfl

/-! ### Numbers of fixed width -/

theorem digitsValue_padStart (width : Nat) (text : List Char) :
    Decimal.digitsValue (Decimal.padStart '0' width text) = Decimal.digitsValue text := by
  rw [Decimal.padStart]
  induction width - text.length with
  | zero => rfl
  | succ n ih => exact ih

theorem isDigit_of_mem_padStart {width n : Nat} {c : Char}
    (h : c ∈ Decimal.padStart '0' width (Nat.toDigits 10 n)) : Decimal.isDigit c = true := by
  rcases List.mem_append.1 h with hzero | hdigit
  · rw [List.eq_of_mem_replicate hzero]
    rfl
  · exact Decimal.isDigit_of_mem_toDigits hdigit

theorem natural?_padStart (width n : Nat) :
    Decimal.natural? (Decimal.padStart '0' width (Nat.toDigits 10 n)) = some n := by
  have hne : Decimal.padStart '0' width (Nat.toDigits 10 n) ≠ [] := by
    simp [Decimal.padStart]
  rw [Decimal.natural?, if_neg, digitsValue_padStart, Decimal.digitsValue_toDigits]
  simpa [hne] using fun c => isDigit_of_mem_padStart

theorem takeSign_of_isDigit {text : List Char} (h : ∀ c ∈ text, Decimal.isDigit c = true) :
    Decimal.takeSign text = (false, text) := by
  rw [Decimal.takeSign.eq_def]
  split
  · exact absurd (h '-' List.mem_cons_self) (by decide)
  · exact absurd (h '+' List.mem_cons_self) (by decide)
  · rfl

/-- The sign and the digits behind the padding are read back. -/
theorem integer?_padded (width : Nat) (n : Int) : Decimal.integer? (padded width n) = some n := by
  rw [padded, Decimal.integer?]
  by_cases hneg : n < 0
  · simp only [if_pos hneg, Decimal.takeSign, natural?_padStart]
    exact congrArg some (show -(n.natAbs : Int) = n by omega)
  · simp only [if_neg hneg, takeSign_of_isDigit fun c => isDigit_of_mem_padStart, natural?_padStart]
    exact congrArg some (show (n.natAbs : Int) = n by omega)

theorem length_padStart (width : Nat) (text : List Char) :
    (Decimal.padStart '0' width text).length = max width text.length := by
  rw [Decimal.padStart, List.length_append, List.length_replicate]
  omega

theorem width_le_length_padded (width : Nat) (n : Int) : width ≤ (padded width n).length := by
  rw [padded]
  split
  · rw [List.length_cons, length_padStart]
    omega
  · rw [length_padStart]
    omega

def TwoDigits (text : List Char) (n : Nat) : Prop :=
  text.length = 2 ∧ Decimal.natural? text = some n

theorem twoDigits_padded {n : Nat} (h : n < 100) : TwoDigits (padded 2 n) n := by
  have hpadded : padded 2 n = Decimal.padStart '0' 2 (Nat.toDigits 10 n) := by
    rw [padded, if_neg (by omega), Int.natAbs_natCast]
  have hlength := (Nat.length_toDigits_le_iff (by decide) (by decide)).2 (show n < 10 ^ 2 from h)
  rw [TwoDigits, hpadded, length_padStart, natural?_padStart]
  exact ⟨by omega, rfl⟩

/-- A text shows a date and a time of the day: the year with its sign and at least four characters, every other
number with two digits. -/
def Shows (text : List Char) (date : Date) (hour minute : Nat) : Prop :=
  ∃ year month day hours minutes,
    text = year ++ '-' :: month ++ '-' :: day ++ ' ' :: hours ++ ':' :: minutes ++ " UTC".toList ∧
    (Decimal.integer? year = some date.year ∧ 4 ≤ year.length) ∧ TwoDigits month date.month ∧
    TwoDigits day date.day ∧ TwoDigits hours hour ∧ TwoDigits minutes minute

theorem monthLength_le (year : Int) (month : Nat) : monthLength year month ≤ 31 := by
  unfold monthLength
  split <;> split <;> omega

theorem shows_write {date : Date} {hour minute : Nat} (h : date.Valid) (hhour : hour < 24)
    (hminute : minute < 60) :
    Shows (write date hour minute).toList date hour minute := by
  have hmonth := h.month_le
  have hday := Nat.le_trans h.day_le (monthLength_le date.year date.month)
  refine ⟨padded 4 date.year, padded 2 date.month, padded 2 date.day, padded 2 hour, padded 2 minute, ?_,
    ⟨integer?_padded 4 date.year, width_le_length_padded 4 date.year⟩, twoDigits_padded (by omega),
    twoDigits_padded (by omega), twoDigits_padded (by omega), twoDigits_padded (by omega)⟩
  rw [write, String.toList_ofList]

/-! ### The minute of a second -/

/-- The date of every second that 64 bits count is computed without leaving 64 bits, and printed with the minute
that contains the second. The dates are those of the calendar: they begin with the first of January 1970, and
from each day to the next they follow its rules. -/
theorem printed_minute (seconds : Int64) :
    checkedMinute seconds.toInt = some (writeMinute seconds.toInt) ∧
    (∃ (days : Int) (hour minute : Nat), hour < 24 ∧ minute < 60 ∧
      Shows (writeMinute seconds.toInt).toList (dateOfDay days) hour minute ∧
      86400 * days + 3600 * hour + 60 * minute ≤ seconds.toInt ∧
      seconds.toInt < 86400 * days + 3600 * hour + 60 * (minute + 1)) ∧
    dateOfDay 0 = ⟨1970, 1, 1⟩ ∧
    (∀ days : Int, (dateOfDay days).Valid ∧ dateOfDay (days + 1) = (dateOfDay days).next) ∧
    ∀ days : Int, -0x8000000000000000 ≤ days ∧ days + daysBeforeEpoch < 0x8000000000000000 →
      checkedDate days = some (dateOfDay days) := by
  refine ⟨checkedMinute_eq ⟨seconds.le_toInt, seconds.toInt_lt⟩, ?_, dateOfDay_zero,
    fun days => ⟨valid_dateOfDay days, dateOfDay_succ days⟩, fun days => checkedDate_eq⟩
  obtain ⟨ofDay, hofDay⟩ :=
    Int.eq_ofNat_of_zero_le (Int.emod_nonneg seconds.toInt (show (86400 : Int) ≠ 0 by decide))
  have hlt : ofDay < 86400 := by omega
  refine ⟨seconds.toInt / 86400, ofDay / 3600, ofDay % 3600 / 60, by omega, by omega, ?_, by omega, by omega⟩
  have hwritten : writeMinute seconds.toInt =
      write (dateOfDay (seconds.toInt / 86400)) (ofDay / 3600 : Nat) (ofDay % 3600 / 60 : Nat) := by
    show write _ (seconds.toInt % 86400 / 3600) (seconds.toInt % 86400 % 3600 / 60) = _
    rw [hofDay]
    rfl
  rw [hwritten]
  exact shows_write (valid_dateOfDay _) (by omega) (by omega)

example : writeMinute (-1) = "1969-12-31 23:59 UTC" := by decide +kernel

end Concordance.Calendar
