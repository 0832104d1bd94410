/-!
# Magnitudes of numbers

Which numbers are too large for a double. The size of a number is judged by two roundings: its
digits, as far as they fit in 64 bits, are rounded to a double, the power of ten that scales them is
rounded too, and the number is out of range if the product of the two rounds to infinity. So a few
numbers below the largest double are out of range. `nearest_of_lt` says that the first rounding
changes nothing below 2 ^ 53.
-/

-- Powers and sums of numbers are those of the core library, also next to Mathlib.
attribute [instance (10000)] instPowNat Zero.ofOfNat0
attribute [default_instance 10000] instPowNat

namespace Couponry.Json.Magnitude

/-- The natural number nearest to `n` that has at most 53 binary digits before its zeros. Of two
equally near ones it is the one that is even in its last digit. -/
def nearest (n : Nat) : Nat :=
  let unit := 2 ^ (n.log2 - 52)
  let low := n % unit
  let floor := n - low
  if 2 * low > unit ∨ 2 * low = unit ∧ floor / unit % 2 = 1 then floor + unit else floor

theorem nearest_of_lt {n : Nat} (h : n < 2 ^ 53) : nearest n = n := by
  have hlog : n.log2 - 52 = 0 := by
    by_cases h0 : n = 0
    · subst h0; rfl
    · have := (Nat.log2_lt h0).2 h
      omega
  simp [nearest, hlog, Nat.mod_one]

/-- The least number that rounds to more than the largest double. -/
def infinity : Nat :=
  2 ^ 1024 - 2 ^ 970

/-- The number `significand · 10 ^ exponent` is out of the range of a double. -/
def overflows (significand : Nat) (exponent : Int) : Bool :=
  if significand = 0 ∨ exponent < 0 then false
  else if exponent > 308 then true
  else decide (infinity ≤ nearest significand * nearest (10 ^ exponent.toNat))

/-- The significand with one more digit, if 64 bits can hold it. -/
def append (significand digit : Nat) : Option Nat :=
  let n := significand * 10 + digit
  if n < 2 ^ 64 then some n else none

end Couponry.Json.Magnitude
