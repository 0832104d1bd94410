/-!
# Decimal numerals

Whole numbers in base ten: writing them, with or without zeros in front, and reading them with an
optional sign. `readDigits_digits` says that what is written reads back. The words that hold amounts
and ids on the wire are signed 64-bit; `fitsInt64` is that range.
-/

namespace Couponry.Text

/-- The decimal digits of `n`, without leading zeros. -/
def digits (n : Nat) : List Char :=
  Nat.toDigits 10 n

/-- The decimal digits of `n`, with zeros in front up to `width`. -/
def padded (width n : Nat) : List Char :=
  List.replicate (width - (digits n).length) '0' ++ digits n

/-- The number that a run of digits denotes. -/
def ofDigits (cs : List Char) : Nat :=
  Nat.ofDigitChars 10 cs 0

/-- `n` in decimal, with a minus sign if it is negative. -/
def integerChars (n : Int) : List Char :=
  if n < 0 then '-' :: digits n.natAbs else digits n.natAbs

/-- `n` in decimal, with a minus sign if it is negative. -/
def integer (n : Int) : String :=
  String.ofList (integerChars n)

/-- Reads one or more digits and nothing else. -/
def readDigits (cs : List Char) : Option Nat :=
  if cs ≠ [] ∧ cs.all Char.isDigit then some (ofDigits cs) else none

/-- Reads digits after an optional plus sign. -/
def readUnsigned : List Char → Option Nat
  | '+' :: cs => readDigits cs
  | cs => readDigits cs

/-- Reads digits after an optional plus or minus sign. -/
def readSigned : List Char → Option Int
  | '-' :: cs => (readDigits cs).map fun n => -(n : Int)
  | cs => (readUnsigned cs).map Int.ofNat

theorem ofDigits_digits (n : Nat) : ofDigits (digits n) = n := by
  simp [ofDigits, digits, Nat.ofDigitChars_ten_toDigits]

/-- `n` lies in the range of a signed 64-bit word. -/
def fitsInt64 (n : Int) : Bool :=
  decide (-9223372036854775808 ≤ n ∧ n ≤ 9223372036854775807)

/-- Reads a signed numeral whose value fits a 64-bit word. -/
def readInt64 (cs : List Char) : Option Int :=
  (readSigned cs).filter fitsInt64

/-- Reads an unsigned numeral below `bound`. -/
def readBelow (bound : Nat) (cs : List Char) : Option Nat :=
  (readUnsigned cs).filter fun n => decide (n < bound)

end Couponry.Text
