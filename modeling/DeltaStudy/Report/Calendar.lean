import DeltaStudy.Report.Campaign

/-!
# The calendar

The moment that is so many seconds after the start of the year 1970, in
universal time. Days are counted from the first of March of the year 0, so that
the day that a leap year has more is the last one of its year and the pattern of
leap years repeats every 400 years.
-/

namespace DeltaStudy.Report

/-- The number of days from the first of March of the year 0 to the start of the
year 1970. -/
def daysBefore1970 : Nat := 719468

/-- The number of days in 400 years. -/
def daysIn400Years : Nat := 146097

/-- The year of a day in a span of 400 years. Every fourth year has a day more,
but every hundredth has not, and the last one of the span has. -/
def yearOfDay (day : Nat) : Nat :=
  (day - day / 1460 + day / 36524 - day / 146096) / 365

/-- The number of days in a span of 400 years before one of its years. -/
def daysBeforeYear (year : Nat) : Nat :=
  365 * year + year / 4 - year / 100

/-- The month of a day of the year, both counted from March and from 0. Months of
31 and 30 days take turns so that five of them have 153 days. -/
def monthOfDay (day : Nat) : Nat :=
  (5 * day + 2) / 153

/-- The year, the month and the day of the month for a number of days since the
first of March of the year 0. -/
def dateOf (days : Nat) : Nat × Nat × Nat :=
  let inSpan := days % daysIn400Years
  let year := yearOfDay inSpan
  let inYear := inSpan - daysBeforeYear year
  let fromMarch := monthOfDay inYear
  let day := inYear - (153 * fromMarch + 2) / 5 + 1
  let month := if fromMarch < 10 then fromMarch + 3 else fromMarch - 9
  let turned := if month ≤ 2 then 1 else 0
  (days / daysIn400Years * 400 + year + turned, month, day)

/-- The moment that is so many seconds after the start of the year 1970. -/
def Moment.ofSeconds (seconds : Nat) : Moment :=
  let (year, month, day) := dateOf (seconds / 86400 + daysBefore1970)
  let second := seconds % 86400
  ⟨year, month, day, second / 3600, second / 60 % 60, second % 60⟩

end DeltaStudy.Report
