import Concordance.Calendar
import Mathlib.Order.Monotone.Basic
import Mathlib.Order.Nat

/-!
# Dates of the calendar

The rules of the Gregorian calendar say how long months and years are, and so which day comes after a day
(`Date.next`). Dates are computed in another way: a day is counted from the first of March of the first year of
an era of 400 years, and its year and its month are found by division. The two agree on every day, before 1970
and in years below zero as well.
-/

namespace Concordance.Calendar

/-! ### The rules of the calendar -/

/-- A year with a 29th of February. -/
def IsLeapYear (year : Int) : Prop :=
  4 ∣ year ∧ (¬100 ∣ year ∨ 400 ∣ year)

instance (year : Int) : Decidable (IsLeapYear year) :=
  inferInstanceAs (Decidable (_ ∧ _))

def monthLength (year : Int) (month : Nat) : Nat :=
  if month = 2 then if IsLeapYear year then 29 else 28
  else if month ∈ [4, 6, 9, 11] then 30
  else 31

structure Date.Valid (date : Date) : Prop where
  month_pos : 1 ≤ date.month
  month_le : date.month ≤ 12
  day_pos : 1 ≤ date.day
  day_le : date.day ≤ monthLength date.year date.month

def Date.next (date : Date) : Date :=
  if date.day < monthLength date.year date.month then { date with day := date.day + 1 }
  else if date.month < 12 then ⟨date.year, date.month + 1, 1⟩
  else ⟨date.year + 1, 1, 1⟩

/-! ### Years that begin in March -/

/-- The number of days of a year that begins in March; its February is that of the next year. -/
def yearLength (year : Int) : Nat :=
  if IsLeapYear (year + 1) then 366 else 365

theorem yearLength_of_isLeapYear {year : Int} (h : IsLeapYear (year + 1)) : yearLength year = 366 :=
  if_pos h

theorem yearLength_of_not_isLeapYear {year : Int} (h : ¬IsLeapYear (year + 1)) : yearLength year = 365 :=
  if_neg h

/-- After an era the years are as long as before. -/
theorem yearLength_add_mul (year era : Int) : yearLength (year + era * 400) = yearLength year := by
  have hleap : IsLeapYear (year + era * 400 + 1) ↔ IsLeapYear (year + 1) := by
    unfold IsLeapYear
    omega
  simp only [yearLength, hleap]

/-- The number of days from the beginning of an era to that of a year. -/
def yearStart (year : Nat) : Nat :=
  365 * year + year / 4 - year / 100 + year / 400

/-- Years follow one another without a gap. A quotient moves where a year is a multiple, and these are the
leap years. -/
theorem yearStart_succ (year : Nat) : yearStart (year + 1) = yearStart year + yearLength year := by
  have hleap : IsLeapYear ((year : Int) + 1) ↔ 4 ∣ year + 1 ∧ (¬100 ∣ year + 1 ∨ 400 ∣ year + 1) := by
    unfold IsLeapYear
    omega
  have hle : year / 100 ≤ year := Nat.div_le_self year 100
  rw [yearLength, yearStart, yearStart, Nat.succ_div, Nat.succ_div, Nat.succ_div]
  -- the three quotients move together or not at all: 400 with 100, and 100 with 4
  by_cases h4 : 4 ∣ year + 1
  · by_cases h100 : 100 ∣ year + 1
    · by_cases h400 : 400 ∣ year + 1
      · rw [if_pos h4, if_pos h100, if_pos h400, if_pos (hleap.2 ⟨h4, .inr h400⟩)]
        omega
      · rw [if_pos h4, if_pos h100, if_neg h400, if_neg fun h => (hleap.1 h).2.elim (· h100) h400]
        omega
    · have h400 : ¬400 ∣ year + 1 := fun h => h100 (Nat.dvd_trans (by decide) h)
      rw [if_pos h4, if_neg h100, if_neg h400, if_pos (hleap.2 ⟨h4, .inl h100⟩)]
      omega
  · have h100 : ¬100 ∣ year + 1 := fun h => h4 (Nat.dvd_trans (by decide) h)
    have h400 : ¬400 ∣ year + 1 := fun h => h4 (Nat.dvd_trans (by decide) h)
    rw [if_neg h4, if_neg h100, if_neg h400, if_neg fun h => h4 (hleap.1 h).1]
    omega

theorem yearStart_mono : Monotone yearStart :=
  monotone_nat_of_le_succ fun year => by rw [yearStart_succ]; exact Nat.le_add_right _ _

theorem yearOfEra_mono : Monotone yearOfEra := by
  refine monotone_nat_of_le_succ fun day => ?_
  unfold yearOfEra
  omega

/-- Every year of an era is found from its first day and from its last. -/
theorem yearOfEra_ends : ∀ year < 400,
    yearOfEra (yearStart year) = year ∧ yearOfEra (yearStart (year + 1) - 1) = year := by
  decide +kernel

variable {day : Nat}

/-- The year of a day begins no later than the day, and the next year does. -/
theorem yearOfEra_bounds (h : day < daysPerEra) :
    yearOfEra day < 400 ∧ yearStart (yearOfEra day) ≤ day ∧ day < yearStart (yearOfEra day + 1) := by
  -- the year of a day is known at the ends of each year and is monotone between them
  have hend : yearStart 400 = daysPerEra := by decide
  have hyear : yearOfEra day < 400 := by
    have hlast := yearOfEra_mono (Nat.le_sub_one_of_lt h)
    rw [← hend, (yearOfEra_ends 399 (by decide)).2] at hlast
    omega
  refine ⟨hyear, ?_, ?_⟩
  · by_contra hbefore
    -- a day before its year would be at most the last day of the year before
    obtain ⟨year, hpred⟩ : ∃ year, yearOfEra day = year + 1 := by
      refine Nat.exists_eq_succ_of_ne_zero fun hzero => hbefore ?_
      rw [hzero]
      exact Nat.zero_le _
    rw [hpred] at hbefore
    have hle := yearOfEra_mono (Nat.le_sub_one_of_lt (Nat.lt_of_not_le hbefore))
    rw [(yearOfEra_ends year (by omega)).2] at hle
    omega
  · by_contra hbehind
    have hle := yearOfEra_mono (Nat.le_of_not_lt hbehind)
    by_cases hlast : yearOfEra day + 1 = 400
    · rw [hlast, hend] at hbehind
      exact hbehind h
    · rw [(yearOfEra_ends (yearOfEra day + 1) (by omega)).1] at hle
      omega

/-- A day between the starts of two years lies in the first of them. -/
theorem yearOfEra_eq {year : Nat} (h : day < daysPerEra) (hstart : yearStart year ≤ day)
    (hend : day < yearStart (year + 1)) : yearOfEra day = year := by
  obtain ⟨-, hle, hlt⟩ := yearOfEra_bounds h
  rcases Nat.lt_trichotomy (yearOfEra day) year with hless | heq | hmore
  · have hbehind := yearStart_mono (show yearOfEra day + 1 ≤ year by omega)
    omega
  · exact heq
  · have hbehind := yearStart_mono (show year + 1 ≤ yearOfEra day by omega)
    omega

theorem yearStart_add_dayOfYear (h : day < daysPerEra) : yearStart (yearOfEra day) + dayOfYear day = day := by
  obtain ⟨hyear, hle, -⟩ := yearOfEra_bounds h
  have hcentury : yearOfEra day / 400 = 0 := Nat.div_eq_of_lt hyear
  rw [yearStart, hcentury] at hle ⊢
  rw [dayOfYear]
  omega

/-- The place of a day in an era is told by its year and the place in it. -/
theorem yearOfEra_dayOfYear_eq {year ofYear : Nat} (h : day < daysPerEra) (hday : yearStart year + ofYear = day)
    (hlength : ofYear < yearLength year) : yearOfEra day = year ∧ dayOfYear day = ofYear := by
  have hyear : yearOfEra day = year := by
    apply yearOfEra_eq h
    · omega
    · rw [yearStart_succ]
      omega
  have hplace := yearStart_add_dayOfYear h
  rw [hyear] at hplace
  exact ⟨hyear, by omega⟩

theorem dayOfYear_lt (h : day < daysPerEra) : dayOfYear day < yearLength (yearOfEra day) := by
  obtain ⟨-, -, hlt⟩ := yearOfEra_bounds h
  have hplace := yearStart_add_dayOfYear h
  rw [yearStart_succ] at hlt
  omega

/-! ### Months -/

def monthOf (ofYear : Nat) : Nat :=
  let fromMarch := (5 * ofYear + 2) / 153
  if fromMarch < 10 then fromMarch + 3 else fromMarch - 9

def dayOfMonth (ofYear : Nat) : Nat :=
  ofYear - (153 * ((5 * ofYear + 2) / 153) + 2) / 5 + 1

/-- A date by its place in a year that begins in March. -/
def dateInYear (year : Int) (ofYear : Nat) : Date :=
  ⟨year + (if monthOf ofYear ≤ 2 then 1 else 0), monthOf ofYear, dayOfMonth ofYear⟩

theorem monthLength_of_ne {month : Nat} (h : month ≠ 2) (year year' : Int) :
    monthLength year month = monthLength year' month := by
  rw [monthLength, monthLength, if_neg h, if_neg h]

theorem monthLength_congr {year year' : Int} (h : IsLeapYear year ↔ IsLeapYear year') (month : Nat) :
    monthLength year month = monthLength year' month := by
  simp only [monthLength, h]

/-- A day of a year that begins in March is a day of a month; `year` is the year of its February. -/
def HasMonth (year : Int) (n : Nat) : Prop :=
  (1 ≤ monthOf n ∧ monthOf n ≤ 12) ∧ 1 ≤ dayOfMonth n ∧ dayOfMonth n ≤ monthLength year (monthOf n)

/-- The next day belongs to the same month, or begins the next one. -/
def Follows (year : Int) (n : Nat) : Prop :=
  if dayOfMonth n < monthLength year (monthOf n) then
    monthOf (n + 1) = monthOf n ∧ dayOfMonth (n + 1) = dayOfMonth n + 1
  else
    monthOf n ≠ 2 ∧ monthOf (n + 1) = (if monthOf n < 12 then monthOf n + 1 else 1) ∧ dayOfMonth (n + 1) = 1

instance (year : Int) (n : Nat) : Decidable (HasMonth year n) :=
  inferInstanceAs (Decidable (_ ∧ _))

instance (year : Int) (n : Nat) : Decidable (Follows year n) :=
  inferInstanceAs (Decidable (ite _ _ _))

theorem months_of_leapYear : (∀ n < 366, HasMonth 0 n) ∧ ∀ n < 365, Follows 0 n := by
  decide +kernel

theorem months_of_commonYear : (∀ n < 365, HasMonth 1 n) ∧ ∀ n < 364, Follows 1 n := by
  decide +kernel

variable {year : Int} {n : Nat}

/-- Every day of a year has a month, and a place in it. -/
theorem hasMonth_of_lt (h : n < yearLength year) : HasMonth (year + 1) n := by
  by_cases hleap : IsLeapYear (year + 1)
  · rw [yearLength_of_isLeapYear hleap] at h
    rw [HasMonth, monthLength_congr (iff_of_true hleap (show IsLeapYear 0 by decide))]
    exact months_of_leapYear.1 n h
  · rw [yearLength_of_not_isLeapYear hleap] at h
    rw [HasMonth, monthLength_congr (iff_of_false hleap (show ¬IsLeapYear 1 by decide))]
    exact months_of_commonYear.1 n h

/-- Within a year, the day after is the next one of the month or the first one of the next month. -/
theorem follows_of_lt (h : n + 1 < yearLength year) : Follows (year + 1) n := by
  by_cases hleap : IsLeapYear (year + 1)
  · rw [yearLength_of_isLeapYear hleap] at h
    rw [Follows, monthLength_congr (iff_of_true hleap (show IsLeapYear 0 by decide))]
    exact months_of_leapYear.2 n (Nat.lt_of_succ_lt_succ h)
  · rw [yearLength_of_not_isLeapYear hleap] at h
    rw [Follows, monthLength_congr (iff_of_false hleap (show ¬IsLeapYear 1 by decide))]
    exact months_of_commonYear.2 n (Nat.lt_of_succ_lt_succ h)

/-- Only the length of February depends on the year, and it is that of the next year. -/
theorem monthLength_dateInYear (year : Int) (n : Nat) :
    monthLength (dateInYear year n).year (monthOf n) = monthLength (year + 1) (monthOf n) := by
  by_cases hmonth : monthOf n = 2
  · rw [dateInYear, if_pos (Nat.le_of_eq hmonth)]
  · exact monthLength_of_ne hmonth _ _

theorem valid_dateInYear (h : n < yearLength year) : (dateInYear year n).Valid := by
  obtain ⟨⟨hpos, hle⟩, hday, hlength⟩ := hasMonth_of_lt h
  refine ⟨hpos, hle, hday, ?_⟩
  show dayOfMonth n ≤ monthLength (dateInYear year n).year (monthOf n)
  rw [monthLength_dateInYear]
  exact hlength

/-- Within a year that begins in March, the next date is that of the next day. -/
theorem next_dateInYear (h : n + 1 < yearLength year) : (dateInYear year n).next = dateInYear year (n + 1) := by
  -- either the month goes on, or the next one begins, perhaps in the next calendar year
  have hfollows := follows_of_lt h
  rw [Follows] at hfollows
  show (if dayOfMonth n < monthLength (dateInYear year n).year (monthOf n) then _ else _) = _
  rw [monthLength_dateInYear]
  split at hfollows
  · next hday =>
    obtain ⟨hmonth, hnext⟩ := hfollows
    rw [if_pos hday, dateInYear, dateInYear, hmonth, hnext]
  · next hday =>
    obtain ⟨hfebruary, hmonth, hnext⟩ := hfollows
    rw [if_neg hday, dateInYear, dateInYear, hmonth, hnext]
    dsimp only
    split
    · have hyear : monthOf n ≤ 2 ↔ monthOf n + 1 ≤ 2 := by omega
      simp only [hyear]
    · next hlast =>
      have hyear : ¬monthOf n ≤ 2 := by omega
      simp [hyear]

/-- Behind the last day of February March begins. -/
theorem next_dateInYear_of_last (h : n + 1 = yearLength year) :
    (dateInYear year n).next = dateInYear (year + 1) 0 := by
  have hlast : monthOf n = 2 ∧ dayOfMonth n = monthLength (year + 1) 2 := by
    by_cases hleap : IsLeapYear (year + 1)
    · obtain rfl : n = 365 := by rw [yearLength_of_isLeapYear hleap] at h; omega
      rw [monthLength, if_pos rfl, if_pos hleap]
      decide
    · obtain rfl : n = 364 := by rw [yearLength_of_not_isLeapYear hleap] at h; omega
      rw [monthLength, if_pos rfl, if_neg hleap]
      decide
  obtain ⟨hmonth, hday⟩ := hlast
  have hmarch : dateInYear (year + 1) 0 = ⟨year + 1, 3, 1⟩ := by
    show (⟨year + 1 + 0, 3, 1⟩ : Date) = _
    rw [Int.add_zero]
  show (if dayOfMonth n < monthLength (dateInYear year n).year (monthOf n) then _ else _) = _
  rw [monthLength_dateInYear, hmonth, hday, if_neg (Nat.lt_irrefl _), hmarch, dateInYear, hmonth]
  rfl

/-! ### All days -/

/-- A day lies in a year of an era. -/
structure Place (days era : Int) (year ofYear : Nat) : Prop where
  year_lt : year < 400
  ofYear_lt : ofYear < yearLength year
  eq : days + daysBeforeEpoch = era * daysPerEra + (yearStart year + ofYear : Nat)

/-- Every day lies in a year of an era. -/
theorem exists_place (days : Int) : ∃ era year ofYear, Place days era year ofYear := by
  have hpos : (0 : Int) < daysPerEra := by decide
  obtain ⟨day, hday⟩ := Int.eq_ofNat_of_zero_le (Int.emod_nonneg (days + daysBeforeEpoch) hpos.ne')
  have hlt : day < daysPerEra := by
    have := Int.emod_lt_of_pos (days + daysBeforeEpoch) hpos
    omega
  refine ⟨(days + daysBeforeEpoch) / daysPerEra, yearOfEra day, dayOfYear day, (yearOfEra_bounds hlt).1,
    dayOfYear_lt hlt, ?_⟩
  rw [yearStart_add_dayOfYear hlt, ← hday]
  exact (Int.ediv_mul_add_emod _ _).symm

/-- The date is told by the place of the day, whichever way this was found. -/
theorem dateOfDay_eq {days era : Int} {year ofYear : Nat} (h : Place days era year ofYear) :
    dateOfDay days = dateInYear (year + era * 400) ofYear := by
  have hlt : yearStart year + ofYear < daysPerEra := by
    have hend := yearStart_mono (show year + 1 ≤ 400 from h.year_lt)
    have hlength := h.ofYear_lt
    rw [yearStart_succ] at hend
    have hera : yearStart 400 = daysPerEra := by decide
    omega
  obtain ⟨hyear, hofYear⟩ := yearOfEra_dayOfYear_eq hlt rfl h.ofYear_lt
  have hplace : days + daysBeforeEpoch = era * 146097 + (yearStart year + ofYear : Nat) := h.eq
  have hera : (days + daysBeforeEpoch) / daysPerEra = era := by
    rw [daysPerEra] at hlt ⊢
    omega
  have hday : (days + daysBeforeEpoch) % daysPerEra = (yearStart year + ofYear : Nat) := by
    rw [daysPerEra] at hlt ⊢
    omega
  show (⟨_, _, _⟩ : Date) = _
  rw [hera, hday, Int.toNat_natCast, hyear, hofYear]
  rfl

theorem dateOfDay_zero : dateOfDay 0 = ⟨1970, 1, 1⟩ := by
  decide

theorem valid_dateOfDay (days : Int) : (dateOfDay days).Valid := by
  obtain ⟨era, year, ofYear, hplace⟩ := exists_place days
  rw [dateOfDay_eq hplace]
  apply valid_dateInYear
  rw [yearLength_add_mul]
  exact hplace.ofYear_lt

/-- The date of the next day is the next date. -/
theorem dateOfDay_succ (days : Int) : dateOfDay (days + 1) = (dateOfDay days).next := by
  obtain ⟨era, year, ofYear, hplace⟩ := exists_place days
  have hyear := hplace.year_lt
  have hday := hplace.eq
  rw [dateOfDay_eq hplace]
  rcases Nat.lt_or_eq_of_le (Nat.succ_le_of_lt hplace.ofYear_lt) with hwithin | hlast
  · have hnext : Place (days + 1) era year (ofYear + 1) := ⟨hyear, hwithin, by omega⟩
    rw [dateOfDay_eq hnext, next_dateInYear]
    rw [yearLength_add_mul]
    exact hwithin
  · rw [next_dateInYear_of_last (by rw [yearLength_add_mul]; exact hlast)]
    have hpos : 0 < yearLength ((year + 1 : Nat) : Int) := by
      rw [yearLength]
      split <;> omega
    by_cases hera : year + 1 < 400
    · -- the first of March in the same era
      have hnext : Place (days + 1) era (year + 1) 0 := ⟨hera, hpos, by rw [yearStart_succ]; omega⟩
      rw [dateOfDay_eq hnext]
      congr 1
      omega
    · -- the first day of an era
      obtain rfl : year = 399 := by omega
      have hnext : Place (days + 1) (era + 1) 0 0 := by
        refine ⟨by decide, by decide, ?_⟩
        have hend : yearStart 399 + yearLength (399 : Nat) = daysPerEra := by decide
        have hstart : yearStart 0 = 0 := by decide
        rw [hstart, Int.add_mul]
        omega
      rw [dateOfDay_eq hnext]
      congr 1
      omega

end Concordance.Calendar
