import Couponry.Coupon.Store
import Couponry.Coupon.View
import Couponry.Wire.Basic

/-!
# Wire forms of coupons

Optional fields are written as `null` when they are absent, and may be missing when they are read.
-/

namespace Couponry.Wire

open Json

/-- The name of a scope on the wire. -/
def scopeKindName : ScopeKind → String
  | .limited => "limited"
  | .user => "user"
  | .product => "product"

instance : Wire ScopeKind where
  write k := .text (scopeKindName k)
  read := Decoder.choice ([.limited, .user, .product].map fun k => (scopeKindName k, k))

/-- The forms of a scope with its subject. -/
def scopeForms : List (String × Record CouponScope) :=
  [("limited", pure .limited),
    ("per_user", .perUser <$> field UserId "user_id"),
    ("per_product", .perProduct <$> field ProductId "product_id")]

instance : Wire CouponScope where
  write
    | .limited => .object [("type", .text "limited")]
    | .perUser id => .object [("type", .text "per_user"), ("user_id", write id)]
    | .perProduct id => .object [("type", .text "per_product"), ("product_id", write id)]
  read := tagged "type" scopeForms

/-- A counter as a record. -/
def usage : Record Usage :=
  Usage.mk <$> field Int "used" <*> field Int "total"

instance : Wire Usage where
  write u := .object [("used", write u.used), ("total", write u.total)]
  read := usage.read

/-- A coupon as a record. -/
def coupon : Record Coupon :=
  Coupon.mk <$> field CouponId "id" <*> field String "code" <*> field Instant "valid_from"
    <*> field Instant "valid_to" <*> field DiscountRule "discount" <*> field ScopeKind "scope"
    <*> field? Usage "usage" <*> field? String "description" <*> field? String "image_url"
    <*> field UserId "created_by" <*> field Instant "created_at" <*> field? Instant "updated_at"

instance : Wire Coupon where
  write c := .object
    [("id", write c.id), ("code", write c.code), ("valid_from", write c.validFrom),
      ("valid_to", write c.validTo), ("discount", write c.discount), ("scope", write c.scope),
      ("usage", write c.usage), ("description", write c.description),
      ("image_url", write c.imageUrl), ("created_by", write c.createdBy),
      ("created_at", write c.createdAt), ("updated_at", write c.updatedAt)]
  read := coupon.read

/-- A coupon that is to be created as a record. -/
def newCoupon : Record NewCoupon :=
  NewCoupon.mk <$> field String "code" <*> field Instant "valid_from" <*> field Instant "valid_to"
    <*> field DiscountRule "discount" <*> field CouponScope "scope" <*> field Int "total"
    <*> field? String "description" <*> field? String "image_url" <*> field UserId "created_by"
    <*> field Instant "created_at"

instance : Wire NewCoupon where
  write c := .object
    [("code", write c.code), ("valid_from", write c.validFrom), ("valid_to", write c.validTo),
      ("discount", write c.discount), ("scope", write c.scope), ("total", write c.total),
      ("description", write c.description), ("image_url", write c.imageUrl),
      ("created_by", write c.createdBy), ("created_at", write c.createdAt)]
  read := newCoupon.read

/-- A user's grant as a record. -/
def userGrant : Record UserGrant :=
  UserGrant.mk <$> field CouponId "coupon_id" <*> field UserId "user_id" <*> field Usage "usage"

instance : Wire UserGrant where
  write g := .object
    [("coupon_id", write g.couponId), ("user_id", write g.userId), ("usage", write g.usage)]
  read := userGrant.read

/-- A product's grant as a record. -/
def productGrant : Record ProductGrant :=
  ProductGrant.mk <$> field CouponId "coupon_id" <*> field ProductId "product_id"
    <*> field Usage "usage"

instance : Wire ProductGrant where
  write g := .object
    [("coupon_id", write g.couponId), ("product_id", write g.productId), ("usage", write g.usage)]
  read := productGrant.read

/-- A redemption as a record. -/
def redemption : Record RedemptionRecord :=
  RedemptionRecord.mk <$> field Int "id" <*> field CouponId "coupon_id" <*> field UserId "user_id"
    <*> field? ProductId "product_id" <*> field Instant "redeemed_at"

instance : Wire RedemptionRecord where
  write r := .object
    [("id", write r.id), ("coupon_id", write r.couponId), ("user_id", write r.userId),
      ("product_id", write r.productId), ("redeemed_at", write r.redeemedAt)]
  read := redemption.read

/-- A used coupon as a record. -/
def usedCoupon : Record UsedCoupon :=
  UsedCoupon.mk <$> field String "code" <*> field? String "description"
    <*> field? String "image_url" <*> field Instant "applied_at"

instance : Wire UsedCoupon where
  write u := .object
    [("code", write u.code), ("description", write u.description), ("image_url", write u.imageUrl),
      ("applied_at", write u.appliedAt)]
  read := usedCoupon.read

/-- An eligibility request as a record. -/
def eligibilityRequest : Record EligibilityRequest :=
  EligibilityRequest.mk <$> field? UserId "user_id" <*> field? ProductId "product_id"
    <*> field Bool "enforce"

instance : Wire EligibilityRequest where
  write r := .object
    [("user_id", write r.userId), ("product_id", write r.productId), ("enforce", write r.enforce)]
  read := eligibilityRequest.read

/-- A view of a coupon as a record. -/
def couponView : Record CouponView :=
  CouponView.mk <$> field String "code" <*> field DiscountRule "discount"
    <*> field ScopeKind "scope" <*> field Instant "valid_from" <*> field Instant "valid_to"
    <*> field? Usage "usage" <*> field? String "description" <*> field? String "image_url"
    <*> field Bool "can_use"

instance : Wire CouponView where
  write v := .object
    [("code", write v.code), ("discount", write v.discount), ("scope", write v.scope),
      ("valid_from", write v.validFrom), ("valid_to", write v.validTo), ("usage", write v.usage),
      ("description", write v.description), ("image_url", write v.imageUrl),
      ("can_use", write v.canUse)]
  read := couponView.read

/-- A request to create a coupon as a record. -/
def createCoupon : Record CreateCoupon :=
  CreateCoupon.mk <$> field Instant "valid_from" <*> field Instant "valid_to"
    <*> field DiscountRule "discount" <*> field CouponScope "scope" <*> field Int "total"
    <*> trailing? String "description" <*> trailing? String "image_url"

instance : Wire CreateCoupon where
  write r := .object
    [("valid_from", write r.validFrom), ("valid_to", write r.validTo),
      ("discount", write r.discount), ("scope", write r.scope), ("total", write r.total),
      ("description", write r.description), ("image_url", write r.imageUrl)]
  read := createCoupon.read

/-- A created coupon as a record. -/
def createdCoupon : Record CreatedCoupon :=
  CreatedCoupon.mk <$> field CouponId "id" <*> field String "code"

instance : Wire CreatedCoupon where
  write c := .object [("id", write c.id), ("code", write c.code)]
  read := createdCoupon.read

/-- The result of a call to the store has the form of its type. -/
def storeResult : (c : StoreCall) → c.Result → Json
  | .createCoupon _ => write (α := CouponId)
  | .deleteCoupon _ => write (α := Unit)
  | .getByCode _ => write (α := Coupon)
  | .getUserGrant _ _ => write (α := Option UserGrant)
  | .getProductGrant _ _ => write (α := Option ProductGrant)
  | .insertRedemption _ _ _ _ | .redeem _ _ _ _ => write (α := RedemptionRecord)
  | .listUsedByUser _ => write (α := List UsedCoupon)

end Couponry.Wire
