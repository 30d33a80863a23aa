import Concordance.Decimal.Literal
import Concordance.Decimal.Places
import Concordance.Text.Blank

/-!
# The calendar

Days are counted from the first of January 1970 and turned into dates of the Gregorian calendar, which
is carried on into the past before its introduction. The calendar repeats after an era of 400 years, and
a year is taken to begin in March, so the leap day is its last one.
-/

namespace Concordance.Calendar

structure Date where
  year : Int
  month : Nat
  day : Nat
deriving DecidableEq, Repr

/-- The number of days in 400 years. -/
def daysPerEra : Nat := 146097

/-- The days from the first of March of the year 0 to the first of January 1970. -/
def daysBeforeEpoch : Nat := 719468

def yearOfEra (day : Nat) : Nat :=
  (day - day / 1460 + day / 36524 - day / 146096) / 365

/-- The number of a day within its year, which begins in March. -/
def dayOfYear (day : Nat) : Nat :=
  let year := yearOfEra day
  day - (365 * year + year / 4 - year / 100)

/-- The date so many days after the first of January 1970. -/
def dateOfDay (days : Int) : Date :=
  let shifted := days + daysBeforeEpoch
  let era := shifted / daysPerEra
  let day := (shifted % daysPerEra).toNat
  let ofYear := dayOfYear day
  let fromMarch := (5 * ofYear + 2) / 153
  let month := if fromMarch < 10 then fromMarch + 3 else fromMarch - 9
  { year := yearOfEra day + era * 400 + (if month ≤ 2 then 1 else 0)
    month := month
    day := ofYear - (153 * fromMarch + 2) / 5 + 1 }

def secondsPerDay : Nat := 86400

/-- `n` with at least `width` characters; the sign stands before the padding. -/
def padded (width : Nat) (n : Int) : List Char :=
  let digits := Nat.toDigits 10 n.natAbs
  if n < 0 then '-' :: Decimal.padStart '0' (width - 1) digits else Decimal.padStart '0' width digits

def write (date : Date) (hour minute : Int) : String :=
  String.ofList (padded 4 date.year ++ '-' :: padded 2 date.month ++ '-' :: padded 2 date.day ++
    ' ' :: padded 2 hour ++ ':' :: padded 2 minute ++ " UTC".toList)

/-- The minute that lies so many seconds after the beginning of 1970. -/
def writeMinute (seconds : Int) : String :=
  let ofDay := seconds % secondsPerDay
  write (dateOfDay (seconds / secondsPerDay)) (ofDay / 3600) (ofDay % 3600 / 60)

/-- The setting that tells a build its date, from the number of seconds as it is typed. -/
def buildSetting? (epoch : String) : Option String :=
  (Decimal.int64? (Text.trim epoch.toList)).map fun seconds => "BUILD_DATETIME=" ++ writeMinute seconds

end Concordance.Calendar
