import Couponry.Text.Numeral

/-!
# Numerals read back

A number that is written in decimal reads back, with zeros in front of it or without; a signed one
does if it fits the word. A numeral is made of digits, but for the sign in front of it.
-/

namespace Couponry.Text

theorem isDigit_of_mem_digits {n : Nat} {c : Char} (h : c ∈ digits n) : c.isDigit = true :=
  Nat.isDigit_of_mem_toDigits (by decide) (by decide) h

theorem digits_ne_nil (n : Nat) : digits n ≠ [] :=
  Nat.toDigits_ne_nil

theorem readDigits_digits (n : Nat) : readDigits (digits n) = some n := by
  have fits : digits n ≠ [] ∧ (digits n).all Char.isDigit = true :=
    ⟨digits_ne_nil n, List.all_eq_true.2 fun _ => isDigit_of_mem_digits⟩
  rw [readDigits, if_pos fits, ofDigits_digits]

/-- A numeral starts with a digit. -/
theorem exists_digits_eq_cons (n : Nat) : ∃ c cs, digits n = c :: cs ∧ c.isDigit = true := by
  cases written : digits n with
  | nil => exact absurd written (digits_ne_nil n)
  | cons c cs => exact ⟨c, cs, rfl, isDigit_of_mem_digits (written ▸ List.mem_cons_self)⟩

/-- No zero stands in front of a number. -/
theorem digits_of_pos {n : Nat} (pos : 0 < n) : ∃ c cs, digits n = c :: cs ∧ c ≠ '0' := by
  induction n using Nat.strongRecOn with
  | ind n ih =>
    by_cases one : n < 10
    · have all : ∀ n : Fin 10, 0 < n.val → n.val.digitChar ≠ '0' := by decide
      exact ⟨n.digitChar, [], Nat.toDigits_of_lt_base one, all ⟨n, one⟩ pos⟩
    · obtain ⟨c, cs, written, zero⟩ := ih (n / 10) (by omega) (by omega)
      have more : digits n = digits (n / 10) ++ [(n % 10).digitChar] :=
        Nat.toDigits_of_base_le (by decide) (by omega)
      exact ⟨c, cs ++ [(n % 10).digitChar], by rw [more, written, List.cons_append], zero⟩

/-- Where the digits are. -/
theorem toNat_of_isDigit {c : Char} (digit : c.isDigit = true) : 48 ≤ c.toNat ∧ c.toNat ≤ 57 := by
  simp only [Char.isDigit, Bool.and_eq_true, decide_eq_true_eq, ge_iff_le,
    UInt32.le_iff_toNat_le] at digit
  exact digit

/-- A run of digits denotes a number with no more digits than stand there. -/
theorem ofDigits_lt {cs : List Char} (digits : ∀ c ∈ cs, c.isDigit = true) :
    ofDigits cs < 10 ^ cs.length := by
  have step : ∀ (cs : List Char) (n : Nat), (∀ c ∈ cs, c.isDigit = true) →
      Nat.ofDigitChars 10 cs n < (n + 1) * 10 ^ cs.length := by
    intro cs
    induction cs with
    | nil => intro n _; rw [Nat.ofDigitChars_nil, List.length_nil]; omega
    | cons c cs ih =>
      intro n digits
      have value : c.toNat - '0'.toNat ≤ 9 := by
        have bounds := toNat_of_isDigit (digits c List.mem_cons_self)
        have zero : '0'.toNat = 48 := rfl
        omega
      have rest := ih (10 * n + (c.toNat - '0'.toNat)) fun d later =>
        digits d (List.mem_cons_of_mem c later)
      have room : (10 * n + (c.toNat - '0'.toNat) + 1) * 10 ^ cs.length ≤
          ((n + 1) * 10) * 10 ^ cs.length := Nat.mul_le_mul_right _ (by omega)
      rw [Nat.ofDigitChars_cons, List.length_cons, Nat.pow_succ, Nat.mul_comm (10 ^ cs.length),
        ← Nat.mul_assoc]
      exact Nat.lt_of_lt_of_le rest room
  have all := step cs 0 digits
  rw [Nat.zero_add, Nat.one_mul] at all
  exact all

/-! ## Zeros in front -/

theorem isDigit_of_mem_padded {width n : Nat} {c : Char} (h : c ∈ padded width n) :
    c.isDigit = true := by
  rcases List.mem_append.1 h with zero | digit
  · rw [(List.mem_replicate.1 zero).2]
    decide
  · exact isDigit_of_mem_digits digit

theorem length_padded {width n : Nat} (some : 0 < width) (fits : n < 10 ^ width) :
    (padded width n).length = width := by
  have short : (digits n).length ≤ width := (Nat.length_toDigits_le_iff (by decide) some).2 fits
  rw [padded, List.length_append, List.length_replicate]
  omega

/-- Zeros in front of a number do not count. -/
theorem ofDigits_padded (width n : Nat) : ofDigits (padded width n) = n := by
  have zeros : ∀ k, ofDigits (List.replicate k '0' ++ digits n) = n := by
    intro k
    induction k with
    | zero => exact ofDigits_digits n
    | succ k ih =>
      rw [List.replicate_succ, List.cons_append, ofDigits, Nat.ofDigitChars_cons]
      exact ih
  exact zeros _

/-! ## Signs -/

/-- A digit is no sign. -/
theorem ne_of_isDigit {c d : Char} (digit : c.isDigit = true) (other : d.isDigit = false) :
    c ≠ d := by
  rintro rfl
  rw [digit] at other
  cases other

theorem readUnsigned_digits (n : Nat) : readUnsigned (digits n) = some n := by
  obtain ⟨c, cs, written, digit⟩ := exists_digits_eq_cons n
  have noSign : ∀ rest, digits n ≠ '+' :: rest := by
    intro rest signed
    cases written.symm.trans signed
    cases digit
  rw [readUnsigned, readDigits_digits]
  exact noSign

theorem readSigned_integerChars (n : Int) : readSigned (integerChars n) = some n := by
  unfold integerChars
  split
  · next negative =>
    rw [readSigned, readDigits_digits]
    show some (-((n.natAbs : Nat) : Int)) = some n
    congr 1
    omega
  · next positive =>
    obtain ⟨c, cs, written, digit⟩ := exists_digits_eq_cons n.natAbs
    have noSign : ∀ rest, digits n.natAbs ≠ '-' :: rest := by
      intro rest signed
      cases written.symm.trans signed
      cases digit
    rw [readSigned, readUnsigned_digits, Option.map_some]
    · congr 1
      show ((n.natAbs : Nat) : Int) = n
      omega
    · exact noSign

/-- **A number that fits the word reads back.** -/
theorem readInt64_integerChars {n : Int} (fits : fitsInt64 n = true) :
    readInt64 (integerChars n) = some n := by
  rw [readInt64, readSigned_integerChars, Option.filter_some, if_pos fits]

/-- A signed numeral is made of digits and a minus sign. -/
theorem of_mem_integerChars {n : Int} {c : Char} (h : c ∈ integerChars n) :
    c = '-' ∨ c.isDigit = true := by
  unfold integerChars at h
  split at h
  · rcases List.mem_cons.1 h with sign | digit
    · exact .inl sign
    · exact .inr (isDigit_of_mem_digits digit)
  · exact .inr (isDigit_of_mem_digits h)

end Couponry.Text
