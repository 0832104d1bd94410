import Couponry.Purchase.Store
import Couponry.Sql.Session

/-!
# Products in a database

The store of products in two tables: the products and the log of purchases, which refers to them. A
purchase of a product that is not there is refused by the server, which names the rule by its code.
-/

namespace Couponry.Sql.Products

/-! ## Statements -/

/-- The columns of a product. -/
def columns : List String :=
  ["id", "name", "price_cents", "created_at"]

/-- Adds a product. -/
def insertProduct (name : String) (price : Money) (now : Instant) : Command where
  statement := .insert "products"
    [("name", .param 1), ("price_cents", .param 2), ("created_at", .param 3)] columns
  params := [bind name, bind price, bind now]

/-- Finds a product. -/
def selectById (id : ProductId) : Command where
  statement := .select columns (.table "products") [.columnIs "id" 1] []
  params := [bind id]

/-- Adds a purchase to the log. -/
def insertIntoLog (p : NewPurchase) : Command where
  statement := .insert "purchased_products"
    [("product_id", .param 1), ("user_id", .param 2), ("price_cents", .param 3),
      ("discounted_cents", .param 4), ("total_cents", .param 5), ("apply_coupon", .param 6),
      ("created_at", .param 7)]
    ["id"]
  params :=
    [bind p.productId, bind p.userId, bind p.price, bind p.discountedPrice, bind p.total,
      bind p.coupon, bind p.purchasedAt]

/-- Finds the purchases of a user, oldest first. -/
def selectByUser (userId : UserId) : Command where
  statement := .select
    ["id", "product_id", "user_id", "price_cents", "discounted_cents", "total_cents",
      "apply_coupon", "created_at"]
    (.table "purchased_products") [.columnIs "user_id" 1] ["created_at", "id"]
  params := [bind userId]

/-! ## Rows -/

/-- Reads a column. -/
def column (α : Type) [Column α] (row : Row) (name : String) : Except ProductStoreError α :=
  (row.get name).mapError .database

/-- The product in a row. -/
def readProduct (row : Row) : Except ProductStoreError Product := do
  return {
    id := ← column ProductId row "id"
    name := ← column String row "name"
    price := ← column Money row "price_cents"
    createdAt := ← column Instant row "created_at" }

/-- The purchase in a row of the log. -/
def readPurchase (row : Row) : Except ProductStoreError PurchaseRecord := do
  return {
    id := ← column Int row "id"
    productId := ← column ProductId row "product_id"
    userId := ← column UserId row "user_id"
    price := ← column Money row "price_cents"
    discountedPrice := ← column Money row "discounted_cents"
    total := ← column Money row "total_cents"
    coupon := ← column (Option String) row "apply_coupon"
    purchasedAt := ← column Instant row "created_at" }

/-! ## Calls -/

/-- Adds a product. -/
def createProduct (name : String) (price : Money) (now : Instant) :
    SessionProgram (Except ProductStoreError Product) := do
  match ← Session.row (insertProduct name price now) with
  | .error e => return .error (.database e)
  | .ok row => return readProduct row

/-- The product with an id. -/
def getProduct (id : ProductId) : SessionProgram (Except ProductStoreError Product) := do
  match ← Session.row? (selectById id) with
  | .error e => return .error (.database e)
  | .ok none => return .error (.productNotFound id)
  | .ok (some row) => return readProduct row

/-- The committed purchases of a user, oldest first. -/
def purchasesOf (userId : UserId) :
    SessionProgram (Except ProductStoreError (List PurchaseRecord)) := do
  match ← Session.rows (selectByUser userId) with
  | .error e => return .error (.database e)
  | .ok rows => return rows.mapM readPurchase

/-- The code of a refusal for a reference to a row that is not there. -/
def danglingReference : String := "23503"

/-- A missing product is told apart by the code of the refusal. -/
def ofInsert (id : ProductId) : DatabaseError → ProductStoreError
  | .refused e => if e.code = danglingReference then .productNotFound id else .database (.refused e)
  | e => .database e

/-- Writes a purchase in the open transaction. -/
def insertPurchase (p : NewPurchase) :
    SessionProgram (Except ProductStoreError PurchaseRecord) := do
  match ← Session.row (insertIntoLog p) with
  | .error e => return .error (ofInsert p.productId e)
  | .ok row =>
    match row.get "id" with
    | .error e => return .error (.database e)
    | .ok id => return .ok (p.record id)

/-- Begins a transaction. -/
def begin : SessionProgram (Except ProductStoreError Unit) := do
  return (← Session.begin).mapError .database

/-- Commits the open transaction. -/
def commit : SessionProgram (Except ProductStoreError Unit) := do
  return (← Session.commit).mapError fun e => .commitFailed e.message

/-- Rolls the open transaction back. -/
def rollback : SessionProgram (Except ProductStoreError Unit) := do
  return (← Session.rollback).mapError .database

/-- Leaves the open transaction. -/
def abandon : SessionProgram (Except ProductStoreError Unit) := do
  Session.abandon
  return .ok ()

/-- Writes purchases one after another in the open transaction, whatever becomes of each. -/
def insertPurchases :
    List NewPurchase → SessionProgram (List (Except ProductStoreError PurchaseRecord))
  | [] => return []
  | p :: rest => do
    let record ← insertPurchase p
    let records ← insertPurchases rest
    return record :: records

/-- How a transaction ends. -/
inductive Ending where
  | commit
  | rollback
  | abandon
  deriving DecidableEq, Repr

/-- Ends the open transaction. -/
def Ending.close : Ending → SessionProgram (Except ProductStoreError Unit)
  | .commit => Products.commit
  | .rollback => Products.rollback
  | .abandon => Products.abandon

/-- What became of a transaction: of each of its purchases, and of its end. -/
structure Closed where
  records : List (Except ProductStoreError PurchaseRecord)
  result : Except ProductStoreError Unit

/-- A transaction of purchases. -/
def transaction (purchases : List NewPurchase) (ending : Ending) :
    SessionProgram (Except ProductStoreError Closed) := do
  match ← begin with
  | .error e => return .error e
  | .ok () =>
    let records ← insertPurchases purchases
    let result ← ending.close
    return .ok ⟨records, result⟩

end Couponry.Sql.Products
