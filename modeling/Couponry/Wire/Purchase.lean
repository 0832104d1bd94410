import Couponry.Purchase.Basic
import Couponry.Purchase.Progress
import Couponry.Wire.Basic

/-!
# Wire forms of products and purchases
-/

namespace Couponry.Wire

open Json

instance : Wire PurchaseState where
  write s := .text s.name
  read := Decoder.choice (PurchaseState.all.map fun s => (s.name, s))

/-- A product as a record. -/
def product : Record Product :=
  Product.mk <$> field ProductId "id" <*> field String "name" <*> field Money "price"
    <*> field Instant "created_at"

instance : Wire Product where
  write p := .object
    [("id", write p.id), ("name", write p.name), ("price", write p.price),
      ("created_at", write p.createdAt)]
  read := product.read

/-- A purchase that is to be recorded as a record. -/
def newPurchase : Record NewPurchase :=
  NewPurchase.mk <$> field ProductId "product_id" <*> field UserId "user_id" <*> field Money "price"
    <*> field Money "discounted_price" <*> field Money "total" <*> field? String "coupon"
    <*> field Instant "purchased_at"

instance : Wire NewPurchase where
  write p := .object
    [("product_id", write p.productId), ("user_id", write p.userId), ("price", write p.price),
      ("discounted_price", write p.discountedPrice), ("total", write p.total),
      ("coupon", write p.coupon), ("purchased_at", write p.purchasedAt)]
  read := newPurchase.read

/-- A recorded purchase as a record. -/
def purchaseRecord : Record PurchaseRecord :=
  PurchaseRecord.mk <$> field Int "id" <*> field ProductId "product_id" <*> field UserId "user_id"
    <*> field Money "price" <*> field Money "discounted_price" <*> field Money "total"
    <*> field? String "coupon" <*> field Instant "purchased_at"

instance : Wire PurchaseRecord where
  write p := .object
    [("id", write p.id), ("product_id", write p.productId), ("user_id", write p.userId),
      ("price", write p.price), ("discounted_price", write p.discountedPrice),
      ("total", write p.total), ("coupon", write p.coupon), ("purchased_at", write p.purchasedAt)]
  read := purchaseRecord.read

end Couponry.Wire
