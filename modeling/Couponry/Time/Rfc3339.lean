import Couponry.Text.Blank
import Couponry.Time.Instant

/-!
# Timestamps

The RFC 3339 form of an instant. It is written in universal time with a `Z`. Reading takes any
offset below a day and is lenient in the details: blanks may stand around the parts, months, days
and clock fields may have one digit, and a year with a sign may have any number of digits.
-/

namespace Couponry.Time.Rfc3339

open Couponry.Text

/-- The written form. -/
def format (t : Instant) : String :=
  String.ofList (t.chars 'T' ++ ['Z'])

/-- A step of reading: a value and what follows it. -/
abbrev Scan (α : Type) : Type :=
  StateT (List Char) Option α

/-- Skips blanks. -/
def blanks : Scan Unit :=
  modify trimStart

/-- One to `most` digits. -/
def digitRun (most : Nat) : Scan Nat := do
  let cs ← get
  let ds := (cs.take most).takeWhile Char.isDigit
  if ds.isEmpty then failure
  set (cs.drop ds.length)
  return ofDigits ds

/-- A number of one to `most` digits after blanks. -/
def number (most : Nat) : Scan Nat := do
  blanks
  digitRun most

/-- The character `c`. -/
def mark (c : Char) : Scan Unit := do
  match ← get with
  | d :: rest => if d = c then set rest else failure
  | [] => failure

/-- The character `c` after blanks. -/
def separator (c : Char) : Scan Unit := do
  blanks
  mark c

/-- A year: up to four digits, or a sign and any number of them. -/
def year : Scan Int := do
  blanks
  match ← get with
  | '-' :: rest => do
    set rest
    return -(← digitRun rest.length)
  | '+' :: rest => do
    set rest
    return (← digitRun rest.length)
  | _ => return (← digitRun 4)

/-- A date of the calendar. -/
def date : Scan Date := do
  let y ← year
  separator '-'
  let m ← number 2
  separator '-'
  let d ← number 2
  let date : Date := ⟨y, m, d⟩
  if date.isValid && Date.yearInRange y then return date else failure

/-- Between the date and the time. -/
def dateEnd : Scan Unit := do
  match ← get with
  | c :: rest => if c = 't' ∨ c = 'T' ∨ c = ' ' then set rest else failure
  | [] => failure

/-- The nanoseconds that the digits after the point stand for; those after the ninth are dropped. -/
def nanos (ds : List Char) : Nat :=
  ofDigits (ds.take 9) * 10 ^ (9 - ds.length)

/-- A fraction of a second, or none. -/
def fraction : Scan Nat := do
  match ← get with
  | '.' :: rest =>
    let ds := rest.takeWhile Char.isDigit
    if ds.isEmpty then failure
    set (rest.drop ds.length)
    return nanos ds
  | _ => return 0

/-- A time of day: the seconds since midnight and the nanoseconds. -/
def clock : Scan (Nat × Nat) := do
  let h ← number 2
  separator ':'
  let m ← number 2
  separator ':'
  let s ← number 2
  let f ← fraction
  if h < 24 ∧ m < 60 ∧ s ≤ 60 then
    if s = 60 then return (h * 3600 + m * 60 + 59, f + 1000000000)
    else return (h * 3600 + m * 60 + s, f)
  else failure

/-- Two digits. -/
def twoDigits : Scan Nat := do
  match ← get with
  | a :: b :: rest =>
    if a.isDigit && b.isDigit then
      set rest
      return ofDigits [a, b]
    else failure
  | _ => failure

/-- The hours and minutes of an offset, in seconds. -/
def offsetSeconds : Scan Nat := do
  let h ← twoDigits
  modify (List.dropWhile fun c => c == ':' || isBlank c)
  let m ← twoDigits
  if m < 60 then return h * 3600 + m * 60 else failure

/-- An offset from universal time in seconds. -/
def offset : Scan Int := do
  blanks
  match ← get with
  | 'Z' :: rest | 'z' :: rest => do
    set rest
    return 0
  | '+' :: rest => do
    set rest
    return (← offsetSeconds)
  | '-' :: rest | '\u2212' :: rest => do
    set rest
    return -(← offsetSeconds)
  | a :: b :: c :: rest =>
    if [a, b, c].map Char.toUpper = ['U', 'T', 'C'] then
      set rest
      return 0
    else failure
  | _ => failure

/-- A whole timestamp. -/
def timestamp : Scan Instant := do
  let d ← date
  dateEnd
  let (s, f) ← clock
  let o ← offset
  blanks
  let t := Instant.ofDate d (s - o) f
  if o.natAbs < 86400 ∧ Date.yearInRange t.date.year then return t else failure

/-- Reads the written form. -/
def parse (s : String) : Option Instant :=
  match timestamp.run s.toList with
  | some (t, []) => some t
  | _ => none

end Couponry.Time.Rfc3339
