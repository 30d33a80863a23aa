import Concordance.Calendar

/-!
# Dates in words of 64 bits

A date is computed here once more, step by step in signed words of 64 bits, the month and the day at last in 32
bits without a sign. Division drops what is left over, so it rounds towards zero, except where days are told
apart from eras and seconds from days. A step whose result does not fit has no value, and then there is no date.
-/

namespace Concordance.Calendar

/-- A number, if a signed word of 64 bits holds it. -/
def word? (n : Int) : Option Int :=
  if -0x8000000000000000 ≤ n ∧ n < 0x8000000000000000 then some n else none

/-- A number, if 32 bits without a sign hold it. -/
def count? (n : Int) : Option Nat :=
  if 0 ≤ n ∧ n < 0x100000000 then some n.toNat else none

def checkedYearOfEra (day : Int) : Option Int := do
  let shorter ← word? (day - (← word? (day.tdiv 1460)))
  let longer ← word? (shorter + (← word? (day.tdiv 36524)))
  word? ((← word? (longer - (← word? (day.tdiv 146096)))).tdiv 365)

def checkedDayOfYear (day year : Int) : Option Int := do
  let longer ← word? ((← word? (365 * year)) + (← word? (year.tdiv 4)))
  word? (day - (← word? (longer - (← word? (year.tdiv 100)))))

def checkedDate (days : Int) : Option Date := do
  let shifted ← word? (days + daysBeforeEpoch)
  let era ← word? (shifted / daysPerEra)
  let day ← word? (shifted % daysPerEra)
  let year ← checkedYearOfEra day
  let ofYear ← checkedDayOfYear day year
  let fromMarch ← word? ((← word? ((← word? (5 * ofYear)) + 2)).tdiv 153)
  let monthStart ← word? ((← word? ((← word? (153 * fromMarch)) + 2)).tdiv 5)
  let dayOfMonth ← count? (← word? ((← word? (ofYear - monthStart)) + 1))
  let month ← count? (← word? (if fromMarch < 10 then fromMarch + 3 else fromMarch - 9))
  let years ← word? (year + (← word? (era * 400)))
  return ⟨← word? (years + (if month ≤ 2 then 1 else 0)), month, dayOfMonth⟩

def checkedMinute (seconds : Int) : Option String := do
  let days ← word? (seconds / secondsPerDay)
  let ofDay ← word? (seconds % secondsPerDay)
  let date ← checkedDate days
  let hour ← word? (ofDay.tdiv 3600)
  let minute ← word? ((← word? (ofDay.tmod 3600)).tdiv 60)
  return write date hour minute

end Concordance.Calendar
