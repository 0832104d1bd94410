import Couponry.Proofs.Text.Blank
import Couponry.Proofs.Text.Numeral
import Couponry.Proofs.Time.Calendar
import Couponry.Time.Rfc3339

/-!
# Timestamps read back

The parts of a timestamp are read back one by one, each from its digits up to what follows them. A
leap second is read as the sixtieth second, so it reads back only where a minute has one.
-/

namespace Couponry

open Couponry.Text

namespace Instant

/-- The nanoseconds are those of a second, or of a leap second at the end of a minute. -/
def Proper (t : Instant) : Prop :=
  t.nano < 1000000000 ∨ t.nano < 2000000000 ∧ t.second % 60 = 59

instance (t : Instant) : Decidable t.Proper :=
  inferInstanceAs (Decidable (_ ∨ _))

/-- A date and the seconds since its midnight are the instant again. -/
theorem ofDate_date (t : Instant) : ofDate t.date t.secondOfDay t.nano = t := by
  obtain ⟨second, nano⟩ := t
  simp only [ofDate, date, secondOfDay, Date.dayNumber_ofDayNumber, Instant.mk.injEq, and_true]
  omega

end Instant

namespace Time.Rfc3339

/-! ## Digits -/

/-- Nothing is skipped where no blank stands. -/
theorem run_blanks {c : Char} (solid : isBlank c = false) (rest : List Char) :
    blanks.run (c :: rest) = some ((), c :: rest) := by
  have kept : trimStart (c :: rest) = c :: rest := List.dropWhile_cons_of_neg (by simp [solid])
  show some ((), trimStart (c :: rest)) = _
  rw [kept]

/-- The digits end with the run: it is full, or something else follows. -/
def Stops (most : Nat) (ds rest : List Char) : Prop :=
  ds.length = most ∨ ds.length ≤ most ∧ ∀ c cs, rest = c :: cs → c.isDigit = false

theorem Stops.takeWhile {most : Nat} {ds rest : List Char} (stops : Stops most ds rest)
    (digits : ∀ c ∈ ds, c.isDigit = true) : ((ds ++ rest).take most).takeWhile Char.isDigit = ds := by
  rw [List.take_append]
  rcases stops with full | ⟨short, other⟩
  · have nothing : most - ds.length = 0 := by omega
    rw [nothing, List.take_zero, List.append_nil, ← full, List.take_length,
      ← List.append_nil ds, List.takeWhile_append_of_pos digits, List.takeWhile_nil]
  · rw [List.take_of_length_le short, List.takeWhile_append_of_pos digits]
    cases after : rest.take (most - ds.length) with
    | nil => rw [List.takeWhile_nil, List.append_nil]
    | cons c cs =>
      have first : c.isDigit = false := by
        cases rest with
        | nil => simp at after
        | cons d rest =>
          cases room : most - ds.length with
          | zero => simp [room] at after
          | succ k =>
            rw [room, List.take_succ_cons, List.cons.injEq] at after
            rw [← after.1]
            exact other d rest rfl
      rw [List.takeWhile_cons_of_neg (by simp [first]), List.append_nil]

/-- **A run of digits is read** up to what follows it. -/
theorem run_digitRun {most : Nat} {ds rest : List Char} (stops : Stops most ds rest)
    (some' : ds ≠ []) (digits : ∀ c ∈ ds, c.isDigit = true) :
    (digitRun most).run (ds ++ rest) = some (ofDigits ds, rest) := by
  have filled : ds.isEmpty = false := by
    rw [List.isEmpty_eq_false_iff]
    exact some'
  simp only [digitRun, StateT.run_bind, StateT.run_get, Option.pure_def, Option.bind_eq_bind,
    Option.bind_some, stops.takeWhile digits, filled, List.drop_left, Bool.false_eq_true, if_false]
  rfl

/-- A number of fixed width is read, whatever follows it. -/
theorem run_digitRun_padded {width n : Nat} (some' : 0 < width) (fits : n < 10 ^ width)
    (rest : List Char) : (digitRun width).run (padded width n ++ rest) = some (n, rest) := by
  have length := length_padded some' fits
  have filled : padded width n ≠ [] := by
    intro none
    rw [none, List.length_nil] at length
    omega
  rw [run_digitRun (.inl length) filled fun _ => isDigit_of_mem_padded, ofDigits_padded]

/-- A padded number starts with a digit. -/
theorem exists_padded_eq_cons {width n : Nat} (some' : 0 < width) (fits : n < 10 ^ width) :
    ∃ c cs, padded width n = c :: cs ∧ c.isDigit = true := by
  have length := length_padded some' fits
  cases written : padded width n with
  | nil =>
    rw [written, List.length_nil] at length
    omega
  | cons c cs => exact ⟨c, cs, rfl, isDigit_of_mem_padded (written ▸ List.mem_cons_self)⟩

theorem run_number {n : Nat} (fits : n < 10 ^ 2) (rest : List Char) :
    (number 2).run (padded 2 n ++ rest) = some (n, rest) := by
  obtain ⟨c, cs, written, digit⟩ := exists_padded_eq_cons (show 0 < 2 by decide) fits
  have read := run_digitRun_padded (show 0 < 2 by decide) fits rest
  rw [written, List.cons_append] at read ⊢
  rw [number, StateT.run_bind, run_blanks (isBlank_of_isDigit digit)]
  exact read

theorem run_mark (c : Char) (rest : List Char) : (mark c).run (c :: rest) = some ((), rest) := by
  simp only [mark, StateT.run_bind, StateT.run_get, Option.pure_def, Option.bind_eq_bind,
    Option.bind_some, if_true]
  rfl

theorem run_separator {c : Char} (solid : isBlank c = false) (rest : List Char) :
    (separator c).run (c :: rest) = some ((), rest) := by
  rw [separator, StateT.run_bind, run_blanks solid]
  exact run_mark c rest

/-! ## Dates -/

/-- The digits of a year with a sign, which end before the mark behind the year. -/
theorem run_signedYear (n : Nat) (rest : List Char) :
    (digitRun (padded 4 n ++ '-' :: rest).length).run (padded 4 n ++ '-' :: rest) =
      some (n, '-' :: rest) := by
  have filled : padded 4 n ≠ [] := by
    intro none
    exact digits_ne_nil n (List.append_eq_nil_iff.1 none).2
  have stops : Stops (padded 4 n ++ '-' :: rest).length (padded 4 n) ('-' :: rest) := by
    refine .inr ⟨by rw [List.length_append]; omega, ?_⟩
    rintro c cs ⟨⟩
    decide
  rw [run_digitRun stops filled fun _ => isDigit_of_mem_padded, ofDigits_padded]

theorem run_year (y : Int) (rest : List Char) :
    year.run (Instant.yearChars y ++ '-' :: rest) = some (y, '-' :: rest) := by
  unfold Instant.yearChars
  split
  · next plain =>
    have small : y.natAbs < 10 ^ 4 := by omega
    obtain ⟨c, cs, written, digit⟩ := exists_padded_eq_cons (by decide) small
    have read := run_digitRun_padded (by decide) small ('-' :: rest)
    have same : ((y.natAbs : Nat) : Int) = y := by omega
    rw [written, List.cons_append] at read ⊢
    rw [year, StateT.run_bind, run_blanks (isBlank_of_isDigit digit)]
    simp only [Option.bind_eq_bind, Option.bind_some, StateT.run_bind, StateT.run_get,
      Option.pure_def]
    split
    · next signed =>
      cases signed
      cases digit
    · next signed =>
      cases signed
      cases digit
    · simp [read, same]
  · next signed =>
    have read := run_signedYear y.natAbs rest
    by_cases negative : y < 0
    · have same : -((y.natAbs : Nat) : Int) = y := by omega
      rw [if_pos negative, List.cons_append, year, StateT.run_bind, run_blanks (by decide)]
      simp only [Option.bind_eq_bind, Option.bind_some, StateT.run_bind, StateT.run_get,
        Option.pure_def, StateT.run_set, read, StateT.run_pure, same]
    · have same : ((y.natAbs : Nat) : Int) = y := by omega
      rw [if_neg negative, List.cons_append, year, StateT.run_bind, run_blanks (by decide)]
      simp only [Option.bind_eq_bind, Option.bind_some, StateT.run_bind, StateT.run_get,
        Option.pure_def, StateT.run_set, read, StateT.run_pure, same]

/-- A date that exists is read back. -/
theorem run_date {d : Date} (valid : d.isValid = true) (range : Date.yearInRange d.year = true)
    (rest : List Char) : date.run (Instant.dateChars d ++ rest) = some (d, rest) := by
  have bounds : d.month < 10 ^ 2 ∧ d.day < 10 ^ 2 := by
    have short := Date.getD_monthLengths_le (Date.isLeap d.year) (d.month - 1)
    simp only [Date.isValid, Bool.and_eq_true, decide_eq_true_eq] at valid
    omega
  have written : Instant.dateChars d ++ rest = Instant.yearChars d.year ++
      '-' :: (padded 2 d.month ++ '-' :: (padded 2 d.day ++ rest)) := by
    simp [Instant.dateChars]
  rw [written, date, StateT.run_bind, run_year]
  simp only [Option.bind_eq_bind, Option.bind_some, StateT.run_bind,
    run_separator (c := '-') (by decide), run_number bounds.1, run_number bounds.2, valid, range,
    Bool.and_true, if_true]
  rfl

/-! ## Times of day -/

/-- A fraction is read back. -/
theorem run_fraction {nano : Nat} (fits : nano < 1000000000) (rest : List Char) :
    fraction.run (Instant.fractionChars nano ++ 'Z' :: rest) = some (nano, 'Z' :: rest) := by
  have digitRun : ∀ k n, 0 < k → k ≤ 9 → n < 10 ^ k →
      fraction.run ('.' :: padded k n ++ 'Z' :: rest) = some (n * 10 ^ (9 - k), 'Z' :: rest) := by
    intro k n some' most fits
    have length := length_padded some' fits
    have found : (padded k n ++ 'Z' :: rest).takeWhile Char.isDigit = padded k n := by
      rw [List.takeWhile_append_of_pos fun _ => isDigit_of_mem_padded]
      have other : ¬ ('Z').isDigit = true := by decide
      rw [List.takeWhile_cons_of_neg other, List.append_nil]
    have filled : (padded k n).isEmpty = false := by
      rw [List.isEmpty_eq_false_iff]
      intro none
      rw [none, List.length_nil] at length
      omega
    have value : nanos (padded k n) = n * 10 ^ (9 - k) := by
      rw [nanos, List.take_of_length_le (by omega), ofDigits_padded, length]
    simp only [fraction, List.cons_append, StateT.run_bind, StateT.run_get, Option.pure_def,
      Option.bind_eq_bind, Option.bind_some, found, filled, List.drop_left, Bool.false_eq_true,
      if_false, value]
    rfl
  unfold Instant.fractionChars
  split
  · next none => rw [none]; rfl
  · split
    · rw [digitRun 3 _ (by decide) (by decide) (by omega)]
      congr 2
      omega
    · split
      · rw [digitRun 6 _ (by decide) (by decide) (by omega)]
        congr 2
        omega
      · rw [digitRun 9 _ (by decide) (by decide) (by omega)]
        congr 2
        omega

/-- A time of day is read back, the last second of a minute also when it is a leap second. -/
theorem run_clock {second nano : Nat} (within : second < 86400)
    (proper : nano < 1000000000 ∨ nano < 2000000000 ∧ second % 60 = 59) (rest : List Char) :
    clock.run (Instant.clockChars second nano ++ 'Z' :: rest) = some ((second, nano), 'Z' :: rest) := by
  have written : Instant.clockChars second nano ++ 'Z' :: rest = padded 2 (second / 3600) ++
      ':' :: (padded 2 (second / 60 % 60) ++ ':' :: (padded 2 (second % 60 + nano / 1000000000) ++
        (Instant.fractionChars (nano % 1000000000) ++ 'Z' :: rest))) := by
    simp [Instant.clockChars]
  have parts : second / 3600 < 24 ∧ second / 60 % 60 < 60 ∧
      second % 60 + nano / 1000000000 ≤ 60 := by omega
  rw [written, clock, StateT.run_bind, run_number (by omega)]
  simp only [Option.bind_eq_bind, Option.bind_some, StateT.run_bind,
    run_separator (c := ':') (by decide), run_number (n := second / 60 % 60) (by omega),
    run_number (n := second % 60 + nano / 1000000000) (by omega),
    run_fraction (Nat.mod_lt nano (by decide : 0 < 1000000000)), parts, and_self, if_true]
  have whole : second / 3600 * 3600 + second / 60 % 60 * 60 + second % 60 = second := by omega
  split
  · next leap =>
    have first : second / 3600 * 3600 + second / 60 % 60 * 60 + 59 = second := by omega
    have last : nano % 1000000000 + 1000000000 = nano := by omega
    rw [first, last]
    rfl
  · next plain =>
    have first : second / 3600 * 3600 + second / 60 % 60 * 60 +
        (second % 60 + nano / 1000000000) = second := by omega
    have last : nano % 1000000000 = nano := by omega
    rw [first, last]
    rfl

/-! ## Timestamps -/

theorem run_timestamp {t : Instant} (proper : t.Proper)
    (range : Date.yearInRange t.date.year = true) :
    timestamp.run (t.chars 'T' ++ ['Z']) = some (t, []) := by
  have within : t.secondOfDay < 86400 := by
    unfold Instant.secondOfDay
    omega
  have proper' : t.nano < 1000000000 ∨ t.nano < 2000000000 ∧ t.secondOfDay % 60 = 59 := by
    unfold Instant.secondOfDay
    unfold Instant.Proper at proper
    omega
  have again : Instant.ofDate t.date ((t.secondOfDay : Int) - 0) t.nano = t := by
    rw [Int.sub_zero, Instant.ofDate_date]
  have written : t.chars 'T' ++ ['Z'] = Instant.dateChars t.date ++
      'T' :: (Instant.clockChars t.secondOfDay t.nano ++ 'Z' :: []) := by
    simp [Instant.chars]
  have mark (rest : List Char) : dateEnd.run ('T' :: rest) = some ((), rest) := rfl
  have utc : offset.run ['Z'] = some (0, []) := rfl
  have nothing : blanks.run [] = some ((), []) := rfl
  have here : (0 : Int).natAbs < 86400 := by decide
  have valid : t.date.isValid = true := Date.isValid_ofDayNumber _
  rw [written, timestamp, StateT.run_bind, run_date valid range]
  simp only [Option.bind_eq_bind, Option.bind_some, StateT.run_bind, mark,
    run_clock within proper', utc, nothing, again, range, here, and_self, if_true]
  rfl

/-- **A timestamp reads back.** -/
theorem parse_format {t : Instant} (proper : t.Proper)
    (range : Date.yearInRange t.date.year = true) : parse (format t) = some t := by
  rw [parse, format, String.toList_ofList, run_timestamp proper range]

end Time.Rfc3339

end Couponry
