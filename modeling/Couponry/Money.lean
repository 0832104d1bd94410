import Couponry.Text.Numeral

/-!
# Money

Amounts in cents. Percentages are taken exactly and cut off toward zero, so a share of an amount
never has a larger magnitude than the exact share.
-/

namespace Couponry

open Couponry.Text

/-- An amount of money in cents. -/
structure Money where
  cents : Int
  deriving DecidableEq, Repr

namespace Money

/-- No money. -/
def zero : Money := ⟨0⟩

instance : Inhabited Money := ⟨zero⟩

/-- An amount of whole dollars. -/
def ofDollars (dollars : Int) : Money :=
  ⟨dollars * 100⟩

/-- The whole dollars, cut off toward zero. -/
def dollars (m : Money) : Int :=
  m.cents.tdiv 100

/-- The cents beside the whole dollars, without a sign. -/
def centsPart (m : Money) : Nat :=
  m.cents.natAbs % 100

/-- The amount is a debt. -/
def isNegative (m : Money) : Bool :=
  decide (m.cents < 0)

/-- The product of an amount and a percentage, which `percent` divides by a hundred. -/
def timesPercent (m : Money) (p : Nat) : Int :=
  m.cents * p

/-- The share of `p` percent, cut off toward zero. -/
def percent (m : Money) (p : Nat) : Money :=
  ⟨(m.timesPercent p).tdiv 100⟩

/-- The amount, or nothing if it is a debt. -/
def nonNegative (m : Money) : Money :=
  ⟨max m.cents 0⟩

instance : LT Money where
  lt a b := a.cents < b.cents

instance (a b : Money) : Decidable (a < b) :=
  inferInstanceAs (Decidable (a.cents < b.cents))

instance : Sub Money where
  sub a b := ⟨a.cents - b.cents⟩

/-- An amount in dollars with two places, as `$12.05` or `-$0.50`. -/
def display (m : Money) : String :=
  String.ofList
    ((if m.isNegative then ['-', '$'] else ['$']) ++ digits (m.cents.natAbs / 100) ++
      '.' :: padded 2 m.centsPart)

end Money

end Couponry
