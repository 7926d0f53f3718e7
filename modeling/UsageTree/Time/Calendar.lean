/-!
# The Gregorian calendar

Dates of the years 1 to 9999 in the Gregorian calendar, extended backwards, and their numbering by
days. Day 1 is the first of January of year 1, a Monday.

## Main definitions

* `Date` — year, month and day; `Date.Valid` says when they are a date.
* `Date.toDay`, `Date.ofDay` — a date and its number.
* `Date.ofWeek?` — the date of a weekday in a numbered week.
-/

namespace UsageTree

/-- A date in numbers. -/
structure Date where
  year : Nat
  month : Nat
  day : Nat
  deriving Repr, DecidableEq

namespace Date

/-! ## Years and months -/

def isLeap (year : Nat) : Bool := year % 4 == 0 && (year % 100 != 0 || year % 400 == 0)

/-- The number of days before the first of January. -/
def daysBeforeYear (year : Nat) : Nat :=
  let past := year - 1
  365 * past + past / 4 - past / 100 + past / 400

/-- The lengths of the months from January on. -/
def monthLengths (leap : Bool) : List Nat :=
  [31, if leap then 29 else 28, 31, 30, 31, 30, 31, 31, 30, 31, 30, 31]

/-- The length of a month, zero for a month that does not exist. -/
def daysInMonth (year month : Nat) : Nat := (0 :: monthLengths (isLeap year)).getD month 0

/-- The number of days of the year before the first of a month. -/
def daysBeforeMonth (year month : Nat) : Nat :=
  ((monthLengths (isLeap year)).take (month - 1)).foldr (· + ·) 0

/-- The year, the month and the day exist. -/
def Valid (d : Date) : Prop :=
  1 ≤ d.year ∧ d.year ≤ 9999 ∧ 1 ≤ d.day ∧ d.day ≤ daysInMonth d.year d.month

instance (d : Date) : Decidable d.Valid := by unfold Valid; infer_instance

/-! ## Numbering -/

/-- The number of the last day of year 9999. -/
def lastDay : Nat := 3652059

/-- The number of a date. -/
def toDay (d : Date) : Nat := daysBeforeYear d.year + daysBeforeMonth d.year d.month + d.day

/-- How many of the lengths fit into `days` one after the other, and what is left. -/
def splitMonths : Nat → List Nat → Nat × Nat
  | days, [] => (0, days)
  | days, length :: rest =>
    if days < length then (0, days)
    else
      let r := splitMonths (days - length) rest
      (r.1 + 1, r.2)

/-- The year of a day and the number of days of that year before it. A cycle of 400 years has
146097 days, a century in it 36524 or one more, four years in that 1461 or one less, a year 365 or
one more; the longer ones come last. -/
def splitYear (day : Nat) : Nat × Nat :=
  let past := day - 1
  let cycles := past / 146097
  let inCycle := past % 146097
  let centuries := min 3 (inCycle / 36524)
  let inCentury := inCycle - centuries * 36524
  let fours := inCentury / 1461
  let inFour := inCentury % 1461
  let years := min 3 (inFour / 365)
  (400 * cycles + 100 * centuries + 4 * fours + years + 1, inFour - years * 365)

/-- The date of a number from 1 on. -/
def ofDay (day : Nat) : Date :=
  let y := splitYear day
  let m := splitMonths y.2 (monthLengths (isLeap y.1))
  ⟨y.1, m.1 + 1, m.2 + 1⟩

/-! ## Weeks -/

/-- The weekday of a numbered day, 0 for Monday. -/
def weekday (day : Nat) : Nat := (day + 6) % 7

/-- The Monday of week 1, the first week with four days or more in the year. -/
def firstMonday (year : Nat) : Nat :=
  let newYear := daysBeforeYear year + 1
  if weekday newYear ≤ 3 then newYear - weekday newYear else newYear + 7 - weekday newYear

/-- The number of weeks of a year: 53 if it starts on a Thursday, or on a Wednesday with a leap
day to come. -/
def weeksInYear (year : Nat) : Nat :=
  let w := weekday (daysBeforeYear year + 1)
  if w = 3 ∨ w = 2 ∧ isLeap year then 53 else 52

/-- The date of a weekday, 1 for Monday, in a week of a year. -/
def ofWeek? (year week day : Nat) : Option Date :=
  let n := firstMonday year + 7 * (week - 1) + (day - 1)
  if 1 ≤ year ∧ year ≤ 9999 ∧ 1 ≤ week ∧ week ≤ weeksInYear year ∧ 1 ≤ day ∧ day ≤ 7 ∧ n ≤ lastDay
  then some (ofDay n) else none

end Date

end UsageTree
