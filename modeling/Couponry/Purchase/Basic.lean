import Couponry.Id
import Couponry.Money
import Couponry.Time.Instant

/-!
# Products and purchases
-/

namespace Couponry

/-- A product on sale. -/
structure Product where
  id : ProductId
  name : String
  price : Money
  createdAt : Instant
  deriving DecidableEq, Repr

/-- A purchase that is to be recorded. -/
structure NewPurchase where
  productId : ProductId
  userId : UserId
  /-- The price at the time of the purchase. -/
  price : Money
  /-- The price after the coupon, which may be a debt. -/
  discountedPrice : Money
  /-- What is charged, which is no debt. -/
  total : Money
  coupon : Option String
  purchasedAt : Instant
  deriving DecidableEq, Repr

/-- A recorded purchase. -/
structure PurchaseRecord where
  id : Int
  productId : ProductId
  userId : UserId
  price : Money
  discountedPrice : Money
  total : Money
  coupon : Option String
  purchasedAt : Instant
  deriving DecidableEq, Repr

/-- The record of a purchase, once it has its id. -/
def NewPurchase.record (p : NewPurchase) (id : Int) : PurchaseRecord where
  id := id
  productId := p.productId
  userId := p.userId
  price := p.price
  discountedPrice := p.discountedPrice
  total := p.total
  coupon := p.coupon
  purchasedAt := p.purchasedAt

end Couponry
