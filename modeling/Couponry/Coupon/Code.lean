import Couponry.Coupon.Store

/-!
# Coupon codes

A generated code is a fixed start, the date, and five drawn letters. Two codes may come out equal;
it is for the caller to try again.
-/

namespace Couponry.Code

/-- What every generated code of this shop starts with. -/
def start : String := "COUPON"

/-- How many letters are drawn. -/
def suffixLength : Nat := 5

/-- The letters that are drawn from: capitals and digits. -/
def alphabet : List Char :=
  "ABCDEFGHIJKLMNOPQRSTUVWXYZ0123456789".toList

theorem length_alphabet : alphabet.length = 36 := by decide

/-- The character of a letter. -/
def charOf (l : Letter) : Char :=
  alphabet.get (l.cast length_alphabet.symm)

/-- Draws `n` letters. -/
def draw : Nat → CouponProgram (List Letter)
  | 0 => return []
  | n + 1 => do
    let l ← CouponProgram.letter
    let rest ← draw n
    return l :: rest

/-- The code of a start, a date and drawn letters. -/
def assemble (start : String) (now : Instant) (letters : List Letter) : String :=
  String.ofList (start.toList ++ now.shortDate ++ letters.map charOf)

/-- Generates a code. -/
def generate (start : String) (now : Instant) : CouponProgram String := do
  let letters ← draw suffixLength
  return assemble start now letters

end Couponry.Code
