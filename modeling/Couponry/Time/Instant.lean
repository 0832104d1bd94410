import Couponry.Text.Numeral
import Couponry.Time.Calendar

/-!
# Instants

Points in time to the nanosecond, in universal time. A leap second is the second before it with a
thousand million nanoseconds or more, so the order of instants is that of their two parts.
-/

namespace Couponry

open Couponry.Text

/-- A second since the first of January 1970, and the nanoseconds since it began. -/
structure Instant where
  second : Int
  nano : Nat
  deriving DecidableEq, Repr

namespace Instant

instance : LT Instant where
  lt a b := a.second < b.second ∨ a.second = b.second ∧ a.nano < b.nano

instance : LE Instant where
  le a b := a.second < b.second ∨ a.second = b.second ∧ a.nano ≤ b.nano

instance (a b : Instant) : Decidable (a < b) :=
  inferInstanceAs (Decidable (a.second < b.second ∨ a.second = b.second ∧ a.nano < b.nano))

instance (a b : Instant) : Decidable (a ≤ b) :=
  inferInstanceAs (Decidable (a.second < b.second ∨ a.second = b.second ∧ a.nano ≤ b.nano))

theorem le_iff_not_lt {a b : Instant} : a ≤ b ↔ ¬ b < a := by
  show _ ∨ _ ↔ ¬ (_ ∨ _)
  omega

/-- The date of an instant. -/
def date (t : Instant) : Date :=
  .ofDayNumber (Date.epoch + t.second / 86400)

/-- The seconds since midnight, where a leap second counts as the one before it. -/
def secondOfDay (t : Instant) : Nat :=
  (t.second % 86400).toNat

/-- The instant of a date and the seconds and nanoseconds since its midnight. -/
def ofDate (d : Date) (seconds : Int) (nano : Nat) : Instant :=
  ⟨(d.dayNumber - Date.epoch) * 86400 + seconds, nano⟩

/-- The start of a day. -/
def midnight (year : Int) (month day : Nat) : Instant :=
  ofDate ⟨year, month, day⟩ 0 0

/-! ## Text -/

/-- The year in four digits, with a sign if it has more or is negative. -/
def yearChars (year : Int) : List Char :=
  if 0 ≤ year ∧ year ≤ 9999 then padded 4 year.natAbs
  else (if year < 0 then '-' else '+') :: padded 4 year.natAbs

/-- A date as `YYYY-MM-DD`. -/
def dateChars (d : Date) : List Char :=
  yearChars d.year ++ '-' :: padded 2 d.month ++ '-' :: padded 2 d.day

/-- The fraction of a second in the fewest of three, six or nine digits that are exact. -/
def fractionChars (nano : Nat) : List Char :=
  if nano = 0 then []
  else if nano % 1000000 = 0 then '.' :: padded 3 (nano / 1000000)
  else if nano % 1000 = 0 then '.' :: padded 6 (nano / 1000)
  else '.' :: padded 9 nano

/-- A time of day as `HH:MM:SS` and a fraction; a leap second is the sixtieth. -/
def clockChars (second nano : Nat) : List Char :=
  padded 2 (second / 3600) ++ ':' :: padded 2 (second / 60 % 60) ++
    ':' :: padded 2 (second % 60 + nano / 1000000000) ++ fractionChars (nano % 1000000000)

/-- The date and the time of day, with `separator` between them. -/
def chars (separator : Char) (t : Instant) : List Char :=
  dateChars t.date ++ separator :: clockChars t.secondOfDay t.nano

/-- An instant as it is shown to people. -/
def display (t : Instant) : String :=
  String.ofList (t.chars ' ' ++ " UTC".toList)

/-- The date in six digits, `YYMMDD`. -/
def shortDate (t : Instant) : List Char :=
  padded 2 (t.date.year % 100).toNat ++ padded 2 t.date.month ++ padded 2 t.date.day

end Instant

end Couponry
