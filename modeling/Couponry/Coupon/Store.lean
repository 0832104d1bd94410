import Couponry.Coupon.Error
import Couponry.Host
import Couponry.Program

/-!
# The store of coupons

The calls that keep coupons, grants and redemptions, and the signature of the coupon component,
which makes these calls and calls to its host. A counter is only raised by `redeem`, together with
the record of the redemption and only while uses are left.
-/

namespace Couponry

/-- A call to the store of coupons. -/
inductive StoreCall where
  /-- Stores a coupon and, if it has a subject, its grant. -/
  | createCoupon (coupon : NewCoupon)
  /-- Removes a coupon and its grants. The redemptions stay. -/
  | deleteCoupon (id : CouponId)
  | getByCode (code : String)
  | getUserGrant (id : CouponId) (userId : UserId)
  | getProductGrant (id : CouponId) (productId : ProductId)
  /-- Records a redemption without raising a counter. -/
  | insertRedemption (id : CouponId) (userId : UserId) (productId : Option ProductId)
    (time : Instant)
  /-- Takes one use of a coupon and records it. -/
  | redeem (coupon : Coupon) (userId : UserId) (productId : Option ProductId) (time : Instant)
  /-- The coupons a user has used, oldest use first. -/
  | listUsedByUser (userId : UserId)
  deriving DecidableEq, Repr

/-- The value that a call to the store gives when it does not fail. -/
def StoreCall.Result : StoreCall → Type
  | .createCoupon _ => CouponId
  | .deleteCoupon _ => Unit
  | .getByCode _ => Coupon
  | .getUserGrant _ _ => Option UserGrant
  | .getProductGrant _ _ => Option ProductGrant
  | .insertRedemption _ _ _ _ => RedemptionRecord
  | .redeem _ _ _ _ => RedemptionRecord
  | .listUsedByUser _ => List UsedCoupon

/-- The answer to a call to the store. -/
abbrev StoreCall.Answer (c : StoreCall) : Type :=
  Except StoreError c.Result

/-- A call of the coupon component. -/
inductive CouponCall where
  | store (c : StoreCall)
  | host (c : HostCall)
  deriving DecidableEq, Repr

/-- The calls of the coupon component. -/
def CouponCalls : Signature where
  Call := CouponCall
  Answer
    | .store c => c.Answer
    | .host c => c.Answer

/-- A program of the coupon component. -/
abbrev CouponProgram (α : Type) : Type :=
  Program CouponCalls α

namespace CouponProgram

/-- Calls the store. -/
def store (c : StoreCall) : CouponProgram c.Answer :=
  Program.call (S := CouponCalls) (.store c)

/-- The time. -/
def now : CouponProgram Instant :=
  Program.call (S := CouponCalls) (.host .now)

/-- A drawn letter. -/
def letter : CouponProgram Letter :=
  Program.call (S := CouponCalls) (.host .letter)

/-- Writes an event. -/
def log (e : Event) : CouponProgram Unit :=
  Program.call (S := CouponCalls) (.host (.note (.event e)))

/-- Raises a counter. -/
def count (c : Counter) : CouponProgram Unit :=
  Program.call (S := CouponCalls) (.host (.note (.count c)))

end CouponProgram

end Couponry
