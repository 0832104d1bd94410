import Couponry.Json.Basic
import Couponry.Purchase.Basic
import Couponry.Purchase.Error

/-!
# The journal

What the components let others see of their work: events, which are written to a log, and counters,
which are added up. Nothing in the program depends on either.
-/

namespace Couponry

open Couponry.Text

/-- How loud an event is. -/
inductive Level where
  | error
  | warn
  | info
  | debug
  deriving DecidableEq, Repr

/-- The name of a level. -/
def Level.name : Level → String
  | .error => "ERROR"
  | .warn => "WARN"
  | .info => "INFO"
  | .debug => "DEBUG"

/-- Something worth a line in the log. -/
inductive Event where
  | couponInactive (code : String) (now : Instant)
  | couponExhausted (code : String) (usage : Usage)
  | couponCreated (id : CouponId) (code : String) (scope : ScopeKind)
  | codeTaken (code : String) (attempt : Nat)
  | couponDeleted (id : CouponId)
  | couponRedeemed (id : CouponId) (redemptionId : Int)
  | redemptionRejected (id : CouponId) (error : CouponError)
  | purchaseMoved (source target : PurchaseState)
  | purchaseCommitted (record : PurchaseRecord)
  | purchaseFailed (failedIn : PurchaseState) (error : PurchaseError)
  | purchaseStuck (error : PurchaseError)
  | redemptionOrphaned (code : String) (userId : UserId) (productId : ProductId)
      (error : ProductStoreError)
  | rollbackFailed (error : ProductStoreError)
  | requestFailed (message : String)
  deriving DecidableEq, Repr

namespace Event

/-- How loud an event is. -/
def level : Event → Level
  | .couponInactive _ _ | .couponExhausted _ _ | .purchaseMoved _ _ => .debug
  | .couponCreated _ _ _ | .couponDeleted _ | .couponRedeemed _ _ | .purchaseCommitted _ => .info
  | .codeTaken _ _ | .redemptionRejected _ _ | .purchaseFailed _ _ | .rollbackFailed _ => .warn
  | .purchaseStuck _ | .redemptionOrphaned _ _ _ _ | .requestFailed _ => .error

/-- The line of an event. -/
def message : Event → String
  | .couponInactive _ _ => "coupon outside its validity window"
  | .couponExhausted _ _ => "coupon exhausted"
  | .couponCreated _ _ _ => "coupon created"
  | .codeTaken _ _ => "generated coupon code already taken"
  | .couponDeleted _ => "coupon deleted"
  | .couponRedeemed _ _ => "coupon redeemed"
  | .redemptionRejected _ _ => "coupon redemption rejected"
  | .purchaseMoved _ _ => "purchase state transition"
  | .purchaseCommitted _ => "purchase committed"
  | .purchaseFailed _ _ => "purchase failed"
  | .purchaseStuck _ => "purchase could not be marked failed"
  | .redemptionOrphaned _ _ _ _ => "coupon redeemed but purchase commit failed"
  | .rollbackFailed _ => "purchase rollback failed"
  | .requestFailed _ => "internal server error"

/-- The named values of an event. Those that are absent are left out. -/
def fields : Event → List (String × Json)
  | .couponInactive code now => [("code", .text code), ("now", .text now.display)]
  | .couponExhausted code usage =>
    [("code", .text code), ("used", .int usage.used), ("total", .int usage.total)]
  | .couponCreated id code scope =>
    [("id", .text id.display), ("code", .text code), ("scope", .text scope.name)]
  | .codeTaken code attempt => [("code", .text code), ("attempt", .int attempt)]
  | .couponDeleted id => [("id", .text id.display)]
  | .couponRedeemed id redemptionId =>
    [("coupon_id", .text id.display), ("redemption_id", .int redemptionId)]
  | .redemptionRejected id error =>
    [("coupon_id", .text id.display), ("error", .text error.message)]
  | .purchaseMoved source target => [("from", .text source.name), ("to", .text target.name)]
  | .purchaseCommitted record =>
    [("purchase_id", .int record.id), ("total", .text record.total.display)] ++
      (record.coupon.map fun code => ("coupon", Json.text code)).toList
  | .purchaseFailed failedIn error =>
    [("failed_in", .text failedIn.name), ("kind", .text error.kind.name),
      ("error", .text error.message)]
  | .purchaseStuck error => [("error", .text error.message)]
  | .redemptionOrphaned code userId productId error =>
    [("orphaned_redemption", .bool true), ("coupon", .text code), ("user_id", .text userId.display),
      ("product_id", .text productId.display), ("error", .text error.message)]
  | .rollbackFailed error => [("error", .text error.message)]
  | .requestFailed message => [("error", .text message)]

end Event

/-- Why a redemption was rejected. -/
inductive Rejection where
  /-- The coupon was outside its window. -/
  | inactive
  | failed (kind : ErrorKind)
  deriving DecidableEq, Repr

/-- The name of a reason. -/
def Rejection.name : Rejection → String
  | .inactive => "inactive"
  | .failed kind => kind.name

/-- A counter, one for each value of its label. -/
inductive Counter where
  | couponsCreated
  | eligibilityChecks (eligible : Bool)
  | redemptions
  | redemptionsRejected (reason : Rejection)
  | purchaseAttempts
  | purchasesCompleted
  | purchasesFailed (kind : ErrorKind)
  | orphanedRedemptions
  /-- The attempts whose duration was measured. -/
  | purchaseDurations
  deriving DecidableEq, Repr

namespace Counter

/-- The name of the counter of a label. -/
def labelled (name label value : String) : String :=
  s!"{name}\x7b{label}=\"{value}\"\x7d"

/-- The name of a counter, with its label. -/
def series : Counter → String
  | .couponsCreated => "coupon_created_total"
  | .eligibilityChecks eligible =>
    labelled "coupon_eligibility_checks_total" "eligible" (if eligible then "true" else "false")
  | .redemptions => "coupon_redemptions_total"
  | .redemptionsRejected reason =>
    labelled "coupon_redemptions_rejected_total" "reason" reason.name
  | .purchaseAttempts => "purchase_attempts_total"
  | .purchasesCompleted => "purchase_completed_total"
  | .purchasesFailed kind => labelled "purchase_failed_total" "kind" kind.name
  | .orphanedRedemptions => "purchase_orphaned_redemptions_total"
  | .purchaseDurations => "purchase_duration_seconds_count"

end Counter

/-- An entry of the journal. -/
inductive Observation where
  | event (e : Event)
  | count (c : Counter)
  deriving DecidableEq, Repr

namespace Observation

/-- The events of a journal. -/
def events (journal : List Observation) : List Event :=
  journal.filterMap fun
    | .event e => some e
    | .count _ => none

/-- How often a counter was raised. -/
def total (journal : List Observation) (c : Counter) : Nat :=
  journal.count (.count c)

/-- The counters that were raised, each once, in the order of their first raise. -/
def raised (journal : List Observation) : List Counter :=
  (journal.filterMap fun
    | .event _ => none
    | .count c => some c).eraseDups

end Observation

end Couponry
