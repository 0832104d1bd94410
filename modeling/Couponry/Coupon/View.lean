import Couponry.Coupon.Basic
import Couponry.Identity

/-!
# Requests about coupons, and the coupon as its users see it
-/

namespace Couponry

/-- Who asks about a coupon, and whether the checks count. -/
structure EligibilityRequest where
  userId : Option UserId
  productId : Option ProductId
  /-- Without this no check is made, and the coupon always counts as usable. -/
  enforce : Bool
  deriving DecidableEq, Repr

namespace EligibilityRequest

/-- A look-up for display. -/
def lookup : EligibilityRequest :=
  ⟨none, none, false⟩

/-- A full check on behalf of a user, and perhaps for a product. -/
def enforceFor (userId : UserId) (productId : Option ProductId) : EligibilityRequest :=
  ⟨some userId, productId, true⟩

end EligibilityRequest

/-- A coupon as a caller sees it, with the outcome of the check. -/
structure CouponView where
  code : String
  discount : DiscountRule
  scope : ScopeKind
  validFrom : Instant
  validTo : Instant
  /-- The counter that limits the caller, if one was looked up. -/
  usage : Option Usage
  description : Option String
  imageUrl : Option String
  canUse : Bool
  deriving DecidableEq, Repr

/-- What is shown of a coupon. -/
def Coupon.view (c : Coupon) (usage : Option Usage) (canUse : Bool) : CouponView where
  code := c.code
  discount := c.discount
  scope := c.scope
  validFrom := c.validFrom
  validTo := c.validTo
  usage := usage
  description := c.description
  imageUrl := c.imageUrl
  canUse := canUse

/-- A request to create a coupon, for which a code is generated. -/
structure CreateCoupon where
  validFrom : Instant
  validTo : Instant
  discount : DiscountRule
  scope : CouponScope
  total : Int
  description : Option String
  imageUrl : Option String
  deriving DecidableEq, Repr

/-- The coupon that such a request asks for. -/
def CreateCoupon.toNewCoupon (r : CreateCoupon) (code : String) (creator : UserId) (now : Instant) :
    NewCoupon where
  code := code
  validFrom := r.validFrom
  validTo := r.validTo
  discount := r.discount
  scope := r.scope
  total := r.total
  description := r.description
  imageUrl := r.imageUrl
  createdBy := creator
  createdAt := now

/-- The id and the code of a coupon that was created. -/
structure CreatedCoupon where
  id : CouponId
  code : String
  deriving DecidableEq, Repr

end Couponry
