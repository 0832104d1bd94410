import Couponry.Money

/-!
# Discount rules

A rule is a percentage of the price or a price of its own. It is stored as its kind and a number;
`ofParts` takes the pair back, and refuses percentages above a hundred and negative amounts.
-/

namespace Couponry

open Couponry.Text

/-- The two kinds of rules. -/
inductive DiscountKind where
  | percent
  | value
  deriving DecidableEq, Repr

namespace DiscountKind

/-- The stored name of a kind. -/
def name : DiscountKind → String
  | .percent => "PERCENT"
  | .value => "VALUE"

/-- The kind with a stored name. -/
def ofName? : String → Option DiscountKind
  | "PERCENT" => some .percent
  | "VALUE" => some .value
  | _ => none

/-- What is said of a name that no kind has. -/
def unknownText (s : String) : String :=
  s!"unknown discount type: {s}"

end DiscountKind

/-- How a coupon changes the price of a product. -/
inductive DiscountRule where
  /-- The price becomes this percentage of what it was. -/
  | percent (percent : Nat)
  /-- The price becomes this amount. -/
  | fixedValue (amount : Money)
  deriving DecidableEq, Repr

/-- Why a kind and a number are no rule. -/
inductive DiscountFault where
  | percentOutOfRange (value : Int)
  | negativeValue (value : Int)
  deriving DecidableEq, Repr

/-- The wording of a fault. -/
def DiscountFault.message : DiscountFault → String
  | .percentOutOfRange v => s!"percent discount out of range: {integer v}"
  | .negativeValue v => s!"negative discount value: {integer v}"

namespace DiscountRule

/-- The kind of a rule. -/
def kind : DiscountRule → DiscountKind
  | .percent _ => .percent
  | .fixedValue _ => .value

/-- The number of a rule: the percentage, or the amount in cents. -/
def value : DiscountRule → Int
  | .percent p => p
  | .fixedValue m => m.cents

/-- The rule of a kind and a number. -/
def ofParts (kind : DiscountKind) (value : Int) : Except DiscountFault DiscountRule :=
  match kind with
  | .percent =>
    if 0 ≤ value ∧ value ≤ 100 then .ok (.percent value.toNat)
    else .error (.percentOutOfRange value)
  | .value =>
    if 0 ≤ value then .ok (.fixedValue ⟨value⟩) else .error (.negativeValue value)

/-- The price of a product after the rule: a share of it, or the amount that replaces it. -/
def apply (rule : DiscountRule) (price : Money) : Money :=
  match rule with
  | .percent p => price.percent p
  | .fixedValue amount => amount

end DiscountRule

end Couponry
