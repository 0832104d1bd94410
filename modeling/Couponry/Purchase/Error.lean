import Couponry.Coupon.Error
import Couponry.Purchase.Progress

/-!
# Errors about purchases

What the store of products and the client of the coupon component fail with, and what an attempt to
purchase makes of it. The kind that the coupon component gave is kept.
-/

namespace Couponry

/-- A failure of the store of products. -/
inductive ProductStoreError where
  | productNotFound (id : ProductId)
  | commitFailed (reason : String)
  | database (error : DatabaseError)
  | migration (error : MigrationError)
  deriving DecidableEq, Repr

/-- The name of a failure. -/
def ProductStoreError.name : ProductStoreError → String
  | .productNotFound _ => "ProductNotFound"
  | .commitFailed _ => "CommitFailed"
  | .database _ => "Database"
  | .migration _ => "Migration"

/-- The wording of a failure. -/
def ProductStoreError.message : ProductStoreError → String
  | .productNotFound id => s!"Product not found: {id.display}"
  | .commitFailed reason => s!"Commit failed: {reason}"
  | .database error => s!"Database error: {error.message}"
  | .migration error => s!"Migration error: {error.message}"

/-- A failure of a call to the coupon component, with the kind that it gave. -/
structure ClientError where
  kind : ErrorKind
  message : String
  deriving DecidableEq, Repr

namespace ClientError

/-- A failure on this side of the call. -/
def internal (message : String) : ClientError :=
  ⟨.internal, message⟩

/-- A failure of the coupon component, when it is called directly. -/
def ofCoupon (e : CouponError) : ClientError :=
  ⟨e.kind, e.message⟩

/-- A failure with the kind in front. -/
def display (e : ClientError) : String :=
  s!"coupon service ({e.kind.name}): {e.message}"

end ClientError

/-- A failure of an attempt to purchase. -/
inductive PurchaseError where
  | productNotFound (id : ProductId)
  /-- The coupon component refused a call. -/
  | coupon (error : ClientError)
  /-- The check of the coupon came back negative. -/
  | couponNotUsable (code : String)
  | store (error : ProductStoreError)
  /-- The coupon was redeemed, but the purchase was not committed. -/
  | orphanedRedemption (code : String) (reason : String)
  /-- The attempt went through its states out of order. -/
  | invalidState (source target : PurchaseState)
  deriving DecidableEq, Repr

namespace PurchaseError

/-- The name of a failure. -/
def name : PurchaseError → String
  | .productNotFound _ => "ProductNotFound"
  | .coupon _ => "Coupon"
  | .couponNotUsable _ => "CouponNotUsable"
  | .store _ => "Store"
  | .orphanedRedemption _ _ => "OrphanedRedemption"
  | .invalidState _ _ => "InvalidState"

/-- The kind of a failure. -/
def kind : PurchaseError → ErrorKind
  | .productNotFound _ => .notFound
  | .coupon error => error.kind
  | .couponNotUsable _ => .failedPrecondition
  | .store (.productNotFound _) => .notFound
  | .store _ | .orphanedRedemption _ _ | .invalidState _ _ => .internal

/-- The wording of a failure. -/
def message : PurchaseError → String
  | .productNotFound id => s!"product not found: {id.display}"
  | .coupon error => error.display
  | .couponNotUsable code => s!"unable to apply this coupon: {code}"
  | .store error => s!"product store error: {error.message}"
  | .orphanedRedemption code reason =>
    s!"coupon {code} was redeemed but the purchase could not be committed: {reason}"
  | .invalidState source target =>
    s!"invalid purchase state transition: {source.name} -> {target.name}"

/-- A product that is looked for and not found is told apart from other failures of its store. -/
def ofLookup : ProductStoreError → PurchaseError
  | .productNotFound id => .productNotFound id
  | e => .store e

end PurchaseError

end Couponry
