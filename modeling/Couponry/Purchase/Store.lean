import Couponry.Program
import Couponry.Purchase.Basic
import Couponry.Purchase.Error

/-!
# The store of products

The calls that keep products and purchases. A purchase is written inside a transaction, and is seen
by nobody before the transaction is committed.
-/

namespace Couponry

/-- Names an open transaction. -/
structure TxId where
  value : Nat
  deriving DecidableEq, Repr

/-- A call to the store of products. -/
inductive ProductCall where
  | createProduct (name : String) (price : Money) (now : Instant)
  | getProduct (id : ProductId)
  | begin
  | insertPurchase (tx : TxId) (purchase : NewPurchase)
  | commit (tx : TxId)
  | rollback (tx : TxId)
  /-- Leaves a transaction without ending it, which discards what was written. -/
  | abandon (tx : TxId)
  deriving DecidableEq, Repr

/-- The value that a call gives when it does not fail. -/
def ProductCall.Result : ProductCall → Type
  | .createProduct _ _ _ => Product
  | .getProduct _ => Product
  | .begin => TxId
  | .insertPurchase _ _ => PurchaseRecord
  | .commit _ => Unit
  | .rollback _ => Unit
  | .abandon _ => Unit

/-- The answer to a call to the store of products. -/
abbrev ProductCall.Answer (c : ProductCall) : Type :=
  Except ProductStoreError c.Result

end Couponry
