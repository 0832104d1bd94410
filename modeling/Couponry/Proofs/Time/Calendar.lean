import Couponry.Time.Calendar

/-!
# The calendar numbers days without gaps

Every day number lies in one year and one month of it, so the date of a day number exists, and has
that number again.
-/

namespace Couponry.Date

/-! ## Years -/

/-- A leap year has one day more. -/
theorem startOfYear_succ (year : Int) :
    startOfYear (year + 1) = startOfYear year + (monthLengths (isLeap year)).sum := by
  cases leap : isLeap year with
  | true =>
    have days : (monthLengths true).sum = 366 := by decide
    rw [isLeap, decide_eq_true_eq] at leap
    rw [days]
    unfold startOfYear
    omega
  | false =>
    have days : (monthLengths false).sum = 365 := by decide
    rw [isLeap, decide_eq_false_iff_not] at leap
    rw [days]
    unfold startOfYear
    omega

/-- A day lies in its year. -/
theorem startOfYear_le (n : Int) : startOfYear (yearOfDay n) ≤ n := by
  unfold yearOfDay
  simp only
  split
  · unfold startOfYear at *
    omega
  · split
    · assumption
    · omega

theorem lt_startOfYear_succ (n : Int) : n < startOfYear (yearOfDay n + 1) := by
  unfold yearOfDay
  simp only
  split
  · next before =>
    rw [Int.sub_add_cancel]
    exact before
  · split
    · unfold startOfYear at *
      omega
    · omega

/-! ## Months -/

/-- The days that are left lie in the month after those that fit. -/
theorem splitDays_spec {lengths : List Nat} {n : Nat} (within : n < lengths.sum) :
    (splitDays lengths n).1 < lengths.length ∧
    (splitDays lengths n).2 < lengths.getD (splitDays lengths n).1 0 ∧
    (lengths.take (splitDays lengths n).1).sum + (splitDays lengths n).2 = n := by
  induction lengths generalizing n with
  | nil => exact absurd within (Nat.not_lt_zero n)
  | cons length rest ih =>
    rw [splitDays]
    split
    · next here =>
      refine ⟨Nat.zero_lt_succ _, here, ?_⟩
      simp
    · next later =>
      rw [List.sum_cons] at within
      obtain ⟨months, left, total⟩ := ih (n := n - length) (by omega)
      refine ⟨Nat.succ_lt_succ months, left, ?_⟩
      rw [List.take_succ_cons, List.sum_cons]
      show length + _ + (splitDays rest (n - length)).2 = n
      omega

/-- No month is longer than 31 days. -/
theorem getD_monthLengths_le (leap : Bool) (month : Nat) : (monthLengths leap).getD month 0 ≤ 31 := by
  have all : ∀ leap, ∀ length ∈ monthLengths leap, length ≤ 31 := by decide
  rw [List.getD_eq_getElem?_getD]
  cases found : (monthLengths leap)[month]? with
  | none => exact Nat.zero_le 31
  | some length => exact all leap length (List.mem_of_getElem? found)

/-! ## Dates -/

/-- The months of a day's year cover what is left of the day number. -/
theorem splitDays_ofDayNumber (n : Int) :
    (n - startOfYear (yearOfDay n)).toNat < (monthLengths (isLeap (yearOfDay n))).sum := by
  have first := startOfYear_le n
  have last := lt_startOfYear_succ n
  rw [startOfYear_succ] at last
  omega

/-- **The date of a day number exists.** -/
theorem isValid_ofDayNumber (n : Int) : (ofDayNumber n).isValid = true := by
  obtain ⟨months, left, -⟩ := splitDays_spec (splitDays_ofDayNumber n)
  have twelve : (monthLengths (isLeap (yearOfDay n))).length = 12 := rfl
  rw [twelve] at months
  have exists' : 1 ≤ (ofDayNumber n).month ∧ (ofDayNumber n).month ≤ 12 ∧ 1 ≤ (ofDayNumber n).day :=
    ⟨Nat.le_add_left 1 _, months, Nat.le_add_left 1 _⟩
  rw [isValid, decide_eq_true exists', Bool.true_and, decide_eq_true_eq]
  exact left

/-- **The date of a day number has that number.** -/
theorem dayNumber_ofDayNumber (n : Int) : (ofDayNumber n).dayNumber = n := by
  obtain ⟨-, -, total⟩ := splitDays_spec (splitDays_ofDayNumber n)
  have first := startOfYear_le n
  simp only [dayNumber, ofDayNumber, Nat.add_sub_cancel]
  omega

end Couponry.Date
