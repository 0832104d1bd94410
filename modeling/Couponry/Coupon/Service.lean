import Couponry.Coupon.Code
import Couponry.Coupon.Eligibility

/-!
# The coupon service

What callers may do with coupons: create and delete them as admins, look them up, apply them, and
list those they have used. A code that turns out to be taken is replaced, at most three times.
-/

namespace Couponry.Service

open Couponry.CouponProgram

/-- What is said to callers who may not administer. -/
def notAdmin : CouponError :=
  .permissionDenied "user doesn't have permission"

/-- How many codes are tried. -/
def maxAttempts : Nat := 3

/-- Hands the coupon to the store until its code is accepted, with a new code after each refusal.
`left` attempts are left. -/
def tryCodes (now : Instant) : Nat → NewCoupon → CouponProgram (Except CouponError CreatedCoupon)
  | 0, _ => return .error (.internal "unable to generate a unique coupon code")
  | left + 1, coupon => do
    match ← store (.createCoupon coupon) with
    | .ok id =>
      count .couponsCreated
      log (.couponCreated id coupon.code coupon.scope.kind)
      return .ok ⟨id, coupon.code⟩
    | .error (.duplicateCode code) =>
      log (.codeTaken code (maxAttempts - left))
      let code ← Code.generate Code.start now
      tryCodes now left { coupon with code := code }
    | .error e => return .error (.ofStore e)

/-- Creates a coupon under a generated code. -/
def createCoupon (caller : Identity) (request : CreateCoupon) :
    CouponProgram (Except CouponError CreatedCoupon) := do
  if !caller.isAdmin then return .error notAdmin
  else
    let now ← now
    let code ← Code.generate Code.start now
    let coupon := request.toNewCoupon code caller.userId now
    match coupon.fault? with
    | some fault => return .error (.ofFault fault)
    | none => tryCodes now maxAttempts coupon

/-- Deletes a coupon and its grants. -/
def deleteCoupon (caller : Identity) (id : CouponId) : CouponProgram (Except CouponError Unit) := do
  if !caller.isAdmin then return .error notAdmin
  else
    match ← store (.deleteCoupon id) with
    | .error e => return .error (.ofStore e)
    | .ok () =>
      log (.couponDeleted id)
      return .ok ()

/-- Looks a coupon up and says whether it may be used now. -/
def retrieveCoupon (code : String) (request : EligibilityRequest) :
    CouponProgram (Except CouponError CouponView) := do
  let now ← now
  match ← Eligibility.check code request now with
  | .error e => return .error e
  | .ok view =>
    if request.enforce then count (.eligibilityChecks view.canUse)
    return .ok view

/-- Redeems a coupon that was found. -/
def applyFound (coupon : Coupon) (caller : Identity) (code : String)
    (productId : Option ProductId) : CouponProgram (Except CouponError RedemptionRecord) := do
  let now ← now
  if !coupon.isActiveAt now then
    count (.redemptionsRejected .inactive)
    return .error (.failedPrecondition s!"coupon {code} is outside its validity window")
  else
    match ← store (.redeem coupon caller.userId productId now) with
    | .ok record =>
      count .redemptions
      log (.couponRedeemed coupon.id record.id)
      return .ok record
    | .error e =>
      let error := CouponError.ofStore e
      count (.redemptionsRejected (.failed error.kind))
      log (.redemptionRejected coupon.id error)
      return .error error

/-- Takes one use of a coupon for the caller. Two calls take two uses. -/
def applyCoupon (caller : Identity) (code : String) (productId : Option ProductId) :
    CouponProgram (Except CouponError RedemptionRecord) := do
  match ← store (.getByCode code) with
  | .error e => return .error (.ofStore e)
  | .ok coupon => applyFound coupon caller code productId

/-- The coupons the caller has used, oldest use first. -/
def listUsed (caller : Identity) : CouponProgram (Except CouponError (List UsedCoupon)) := do
  match ← store (.listUsedByUser caller.userId) with
  | .error e => return .error (.ofStore e)
  | .ok used => return .ok used

end Couponry.Service
