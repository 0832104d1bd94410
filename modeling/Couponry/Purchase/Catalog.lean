import Couponry.Purchase.Store
import Couponry.Table

/-!
# The catalog

The store of products in memory. An open transaction keeps the records that were written through
it, in order; a commit that succeeds appends them to the purchases. The id of a purchase is taken
when it is written, whether or not it is ever committed.
-/

namespace Couponry

/-- The products, the committed purchases in order, and the open transactions. -/
structure Catalog where
  products : Table ProductId Product
  purchases : List PurchaseRecord
  pending : Table TxId (List PurchaseRecord)
  lastProductId : Int
  lastPurchaseId : Int
  lastTx : Nat
  /-- Every commit fails while this is set. -/
  failOnCommit : Bool
  deriving DecidableEq, Repr

namespace Catalog

/-- Nothing is stored. -/
def empty : Catalog where
  products := .empty
  purchases := []
  pending := .empty
  lastProductId := 0
  lastPurchaseId := 0
  lastTx := 0
  failOnCommit := false

instance : Inhabited Catalog := ⟨empty⟩

/-- Adds a product. -/
def addProduct (c : Catalog) (name : String) (price : Money) (now : Instant) : Product × Catalog :=
  let product : Product := ⟨⟨c.lastProductId + 1⟩, name, price, now⟩
  (product,
    { c with
      products := c.products.insert product.id product
      lastProductId := c.lastProductId + 1 })

/-- The product with an id. -/
def getProduct (c : Catalog) (id : ProductId) : Except ProductStoreError Product :=
  match c.products.get? id with
  | some p => .ok p
  | none => .error (.productNotFound id)

/-- Opens a transaction. -/
def openTx (c : Catalog) : TxId × Catalog :=
  let tx : TxId := ⟨c.lastTx + 1⟩
  (tx, { c with pending := c.pending.insert tx [], lastTx := c.lastTx + 1 })

/-- What was written through a transaction. -/
def written (c : Catalog) (tx : TxId) : List PurchaseRecord :=
  (c.pending.get? tx).getD []

/-- Writes a purchase of an existing product. -/
def insertPurchase (c : Catalog) (tx : TxId) (p : NewPurchase) :
    Except ProductStoreError PurchaseRecord × Catalog :=
  if c.products.contains p.productId then
    let record := p.record (c.lastPurchaseId + 1)
    (.ok record,
      { c with
        pending := c.pending.insert tx (c.written tx ++ [record])
        lastPurchaseId := c.lastPurchaseId + 1 })
  else (.error (.productNotFound p.productId), c)

/-- Ends a transaction and forgets what was written. -/
def discard (c : Catalog) (tx : TxId) : Catalog :=
  { c with pending := c.pending.erase tx }

/-- Ends a transaction and keeps what was written. -/
def commit (c : Catalog) (tx : TxId) : Except ProductStoreError Unit × Catalog :=
  if c.failOnCommit then (.error (.commitFailed "simulated commit failure"), c.discard tx)
  else (.ok (), { c.discard tx with purchases := c.purchases ++ c.written tx })

/-- Answers a call to the store. -/
def answer : (call : ProductCall) → Catalog → call.Answer × Catalog
  | .createProduct name price now, c =>
    let (product, c) := c.addProduct name price now
    (.ok product, c)
  | .getProduct id, c => (c.getProduct id, c)
  | .begin, c =>
    let (tx, c) := c.openTx
    (.ok tx, c)
  | .insertPurchase tx p, c => c.insertPurchase tx p
  | .commit tx, c => c.commit tx
  | .rollback tx, c => (.ok (), c.discard tx)
  | .abandon tx, c => (.ok (), c.discard tx)

end Catalog

end Couponry
