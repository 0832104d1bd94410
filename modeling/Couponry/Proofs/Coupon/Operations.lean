import Couponry.Coupon.Service

/-!
# The operations of the coupon service

What may be asked of the coupon service to create, delete, check or apply a coupon, with the program that
does it.
-/

namespace Couponry

/-- A call to the coupon service. -/
inductive ServiceCall where
  | create (caller : Identity) (request : CreateCoupon)
  | delete (caller : Identity) (id : CouponId)
  | check (code : String) (request : EligibilityRequest)
  | apply (caller : Identity) (code : String) (productId : Option ProductId)
  deriving DecidableEq, Repr

namespace ServiceCall

/-- The value that a call to the service gives when it does not fail. -/
def Result : ServiceCall → Type
  | .create _ _ => CreatedCoupon
  | .delete _ _ => Unit
  | .check _ _ => CouponView
  | .apply _ _ _ => RedemptionRecord

/-- What the service does. -/
def program : (c : ServiceCall) → CouponProgram (Except CouponError c.Result)
  | .create caller request => Service.createCoupon caller request
  | .delete caller id => Service.deleteCoupon caller id
  | .check code request => Service.retrieveCoupon code request
  | .apply caller code productId => Service.applyCoupon caller code productId

end ServiceCall

end Couponry
