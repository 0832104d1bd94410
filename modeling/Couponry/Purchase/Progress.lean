/-!
# Progress of a purchase

An attempt to purchase goes through the validation, the check of its coupon, an open transaction and
perhaps a redemption, and is committed in the end; it may fail anywhere before.
-/

namespace Couponry

/-- How far an attempt to purchase has come. -/
inductive PurchaseState where
  | validating
  | eligibilityChecked
  /-- The local transaction is open. -/
  | reserving
  /-- The coupon is being redeemed. -/
  | redeeming
  | committed
  | failed
  deriving DecidableEq, Repr

namespace PurchaseState

/-- The states, in the order in which an attempt goes through them. -/
def all : List PurchaseState :=
  [.validating, .eligibilityChecked, .reserving, .redeeming, .committed, .failed]

/-- Where an attempt starts. -/
def initial : PurchaseState := .validating

/-- An attempt in state `s` may go on to state `next`. -/
def canMoveTo (s next : PurchaseState) : Bool :=
  match s, next with
  | .committed, _ | .failed, _ => false
  | _, .failed => true
  | .validating, .eligibilityChecked => true
  | .eligibilityChecked, .reserving => true
  | .reserving, .redeeming => true
  | .reserving, .committed | .redeeming, .committed => true
  | _, _ => false

/-- The attempt is over. -/
def isTerminal (s : PurchaseState) : Bool :=
  s == .committed || s == .failed

/-- The local transaction is open. -/
def holdsTransaction (s : PurchaseState) : Bool :=
  s == .reserving || s == .redeeming

/-- The name of a state. -/
def name : PurchaseState → String
  | .validating => "Validating"
  | .eligibilityChecked => "EligibilityChecked"
  | .reserving => "Reserving"
  | .redeeming => "Redeeming"
  | .committed => "Committed"
  | .failed => "Failed"

theorem canMoveTo_eq_false_of_isTerminal {s next : PurchaseState} (h : s.isTerminal = true) :
    s.canMoveTo next = false := by
  cases s <;> simp_all [isTerminal, canMoveTo]

end PurchaseState

end Couponry
