/-!
# The calendar

Dates of the Gregorian calendar, carried on before its introduction and through negative years, and
their numbering by days. Day 0 is the first of January of the year 0, which is a leap year.
-/

namespace Couponry

/-- A year, and a month and day counted from one. -/
structure Date where
  year : Int
  month : Nat
  day : Nat
  deriving DecidableEq, Repr

namespace Date

/-- Every fourth year is a leap year, of the full centuries only every fourth. -/
def isLeap (year : Int) : Bool :=
  decide (year % 4 = 0 ∧ (year % 100 ≠ 0 ∨ year % 400 = 0))

/-- The lengths of the twelve months. -/
def monthLengths (leap : Bool) : List Nat :=
  [31, if leap then 29 else 28, 31, 30, 31, 30, 31, 31, 30, 31, 30, 31]

/-- The day number of the first of January. -/
def startOfYear (year : Int) : Int :=
  365 * year + (year + 3) / 4 - (year + 99) / 100 + (year + 399) / 400

/-- The year that a day number lies in. The quotient is at most one year off. -/
def yearOfDay (n : Int) : Int :=
  let year := 400 * n / 146097
  if n < startOfYear year then year - 1
  else if startOfYear (year + 1) ≤ n then year + 1
  else year

/-- How many of the lengths fit into `n` days, and the days that are left. -/
def splitDays : List Nat → Nat → Nat × Nat
  | [], n => (0, n)
  | length :: rest, n =>
    if n < length then (0, n)
    else
      let (months, left) := splitDays rest (n - length)
      (months + 1, left)

/-- The date with this day number. -/
def ofDayNumber (n : Int) : Date :=
  let year := yearOfDay n
  let (months, left) := splitDays (monthLengths (isLeap year)) (n - startOfYear year).toNat
  ⟨year, months + 1, left + 1⟩

/-- The day number of a date. -/
def dayNumber (d : Date) : Int :=
  startOfYear d.year + ((monthLengths (isLeap d.year)).take (d.month - 1)).sum + (d.day - 1 : Nat)

/-- The month and the day exist. -/
def isValid (d : Date) : Bool :=
  decide (1 ≤ d.month ∧ d.month ≤ 12 ∧ 1 ≤ d.day) &&
    decide (d.day ≤ (monthLengths (isLeap d.year)).getD (d.month - 1) 0)

/-- The years that can be written and read. -/
def yearInRange (year : Int) : Bool :=
  decide (-262143 ≤ year ∧ year ≤ 262142)

/-- The day number of the first of January 1970. -/
def epoch : Int := 719528

example : dayNumber ⟨1970, 1, 1⟩ = epoch := by decide
example : ofDayNumber epoch = ⟨1970, 1, 1⟩ := by decide
example : ofDayNumber (dayNumber ⟨2024, 2, 29⟩) = ⟨2024, 2, 29⟩ := by decide
example : ofDayNumber (dayNumber ⟨-1, 12, 31⟩) = ⟨-1, 12, 31⟩ := by decide

end Date

end Couponry
