import Couponry.Coupon.Store
import Couponry.Coupon.View

/-!
# Eligibility

Whether a coupon may be used, without using it. A positive answer reserves nothing: of two callers
who both see the last use as theirs, the redemption decides. The checks come in a fixed order, and
the first that fails decides: the code, the validity window, the subject of the scope, its grant,
and the counter.
-/

namespace Couponry.Eligibility

open Couponry.CouponProgram

/-- What the check of a limited coupon looks at. -/
def limitedUsage (coupon : Coupon) : Except CouponError Usage :=
  match coupon.usage with
  | some u => .ok u
  | none => .error (.internal s!"limited coupon {coupon.id.display} has no counters")

/-- The counter of a user. -/
def userUsage (coupon : Coupon) : Option UserId → CouponProgram (Except CouponError Usage)
  | none => return .error (.invalidArgument "per-user coupon check requires a user id")
  | some userId => do
    match ← store (.getUserGrant coupon.id userId) with
    | .error e => return .error (.ofStore e)
    | .ok (some grant) => return .ok grant.usage
    | .ok none =>
      return .error
        (.internal s!"coupon {coupon.id.display} has no grant for user {userId.display}")

/-- The counter of a product. -/
def productUsage (coupon : Coupon) : Option ProductId → CouponProgram (Except CouponError Usage)
  | none => return .error (.invalidArgument "per-product coupon check requires a product id")
  | some productId => do
    match ← store (.getProductGrant coupon.id productId) with
    | .error e => return .error (.ofStore e)
    | .ok (some grant) => return .ok grant.usage
    | .ok none =>
      return .error
        (.internal s!"coupon {coupon.id.display} has no grant for product {productId.display}")

/-- The counter that the scope of a coupon puts the caller under. -/
def scopeUsage (coupon : Coupon) (request : EligibilityRequest) :
    CouponProgram (Except CouponError Usage) :=
  match coupon.scope with
  | .limited => return limitedUsage coupon
  | .user => userUsage coupon request.userId
  | .product => productUsage coupon request.productId

/-- The counter to show on a look-up, where a missing subject or grant is no error. -/
def shownUsage (coupon : Coupon) (request : EligibilityRequest) :
    CouponProgram (Except CouponError (Option Usage)) := do
  match coupon.scope, request.userId, request.productId with
  | .limited, _, _ => return .ok coupon.usage
  | .user, some userId, _ =>
    match ← store (.getUserGrant coupon.id userId) with
    | .error e => return .error (.ofStore e)
    | .ok grant => return .ok (grant.map UserGrant.usage)
  | .product, _, some productId =>
    match ← store (.getProductGrant coupon.id productId) with
    | .error e => return .error (.ofStore e)
    | .ok grant => return .ok (grant.map ProductGrant.usage)
  | _, _, _ => return .ok none

/-- The check of a coupon that was found. -/
def checkFound (coupon : Coupon) (code : String) (request : EligibilityRequest) (now : Instant) :
    CouponProgram (Except CouponError CouponView) := do
  if !request.enforce then
    match ← shownUsage coupon request with
    | .error e => return .error e
    | .ok usage => return .ok (coupon.view usage true)
  else if !coupon.isActiveAt now then
    log (.couponInactive code now)
    return .ok (coupon.view coupon.usage false)
  else
    match ← scopeUsage coupon request with
    | .error e => return .error e
    | .ok usage =>
      if usage.isExhausted then
        log (.couponExhausted code usage)
      return .ok (coupon.view (some usage) (!usage.isExhausted))

/-- Looks a code up and checks whether it may be used at `now`. -/
def check (code : String) (request : EligibilityRequest) (now : Instant) :
    CouponProgram (Except CouponError CouponView) := do
  match ← store (.getByCode code) with
  | .error e => return .error (.ofStore e)
  | .ok coupon => checkFound coupon code request now

end Couponry.Eligibility
