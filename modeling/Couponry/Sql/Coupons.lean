import Couponry.Coupon.Store
import Couponry.Sql.Session

/-!
# Coupons in a database

The store of coupons in four tables: the coupons, with the counters of the limited ones, a table
of grants for users and one for products, and the log of redemptions. A counter is only ever
raised by an update that asks for a use that is left, so its bound holds however many services
share the database. Creating and redeeming are one transaction each.
-/

namespace Couponry.Sql.Coupons

/-! ## Statements -/

/-- The columns of a coupon. -/
def columns : List String :=
  ["id", "code", "valid_from", "valid_to", "discount_type", "discount_value", "scope", "used",
    "total", "description", "image_url", "created_by", "created_at", "updated_at"]

/-- Adds a coupon. The counter of a coupon with a subject is in its grant. -/
def insertCoupon (c : NewCoupon) : Command where
  statement := .insert "coupons"
    [("code", .param 1), ("valid_from", .param 2), ("valid_to", .param 3),
      ("discount_type", .param 4), ("discount_value", .param 5), ("scope", .param 6),
      ("used", .literal 0), ("total", .param 7), ("description", .param 8),
      ("image_url", .param 9), ("created_by", .param 10), ("created_at", .param 11)]
    ["id"]
  params :=
    [bind c.code, bind c.validFrom, bind c.validTo, bind c.discount.kind.name,
      bind c.discount.value, bind c.scope.kind.name,
      bind (if c.scope = .limited then some c.total else none), bind c.description,
      bind c.imageUrl, bind c.createdBy, bind c.createdAt]

/-- Adds the grant of a coupon in a table where `subject` is the column of the subjects. -/
def insertGrant (table subject : String) (id : Int) (c : NewCoupon) (subjectId : Value) :
    Command where
  statement := .insert table
    [("coupon_id", .param 1), (subject, .param 2), ("used", .literal 0), ("total", .param 3),
      ("created_by", .param 4), ("created_at", .param 5)]
    []
  params := [bind id, subjectId, bind c.total, bind c.createdBy, bind c.createdAt]

/-- Adds the grant of a coupon, if it has a subject. -/
def insertGrant? (id : Int) (c : NewCoupon) : Option Command :=
  match c.scope with
  | .limited => none
  | .perUser userId => some (insertGrant "user_coupons" "user_id" id c (bind userId))
  | .perProduct productId => some (insertGrant "product_coupons" "product_id" id c (bind productId))

/-- Removes a coupon, with which its grants go. -/
def deleteById (id : CouponId) : Command where
  statement := .delete "coupons" [.columnIs "id" 1]
  params := [bind id]

/-- Finds a coupon. -/
def selectByCode (code : String) : Command where
  statement := .select columns (.table "coupons") [.columnIs "code" 1] []
  params := [bind code]

/-- Finds the counter of a grant. -/
def selectGrant (table subject : String) (id : CouponId) (subjectId : Value) : Command where
  statement := .select ["used", "total"] (.table table)
    [.columnIs "coupon_id" 1, .columnIs subject 2] []
  params := [bind id, subjectId]

/-- Adds a redemption to the log. -/
def insertUse (id : CouponId) (userId : UserId) (productId : Option ProductId) (time : Instant) :
    Command where
  statement := .insert "used_coupons"
    [("coupon_id", .param 1), ("user_id", .param 2), ("product_id", .param 3),
      ("created_at", .param 4)]
    ["id", "coupon_id", "user_id", "product_id", "created_at"]
  params := [bind id, bind userId, bind productId, bind time]

/-- Finds the redemptions of a user whose coupons still exist, oldest first. -/
def selectUses (userId : UserId) : Command where
  statement := .select ["c.code", "c.description", "c.image_url", "uc.created_at"]
    (.join "used_coupons" "uc" "coupons" "c" (.equal (.column "uc.coupon_id") (.column "c.id")))
    [.columnIs "uc.user_id" 1] ["uc.created_at", "uc.id"]
  params := [bind userId]

/-- The row that holds the counter of a redemption: its table, and the values of its key. -/
structure CounterRow where
  table : String
  key : List (String × Value)
  deriving DecidableEq, Repr

namespace CounterRow

/-- The row of a redemption, if the request has what the scope counts by. -/
def of? (scope : ScopeKind) (id : CouponId) (userId : UserId) (productId : Option ProductId) :
    Option CounterRow :=
  match scope, productId with
  | .limited, _ => some ⟨"coupons", [("id", bind id)]⟩
  | .user, _ => some ⟨"user_coupons", [("coupon_id", bind id), ("user_id", bind userId)]⟩
  | .product, some productId =>
    some ⟨"product_coupons", [("coupon_id", bind id), ("product_id", bind productId)]⟩
  | .product, none => none

/-- The key is given by the first parameters. -/
def conditions (r : CounterRow) : List Condition :=
  r.key.mapIdx fun i k => .columnIs k.1 (i + 1)

/-- Raises the counter, if a use is left. -/
def raise (r : CounterRow) (time : Instant) : Command where
  statement := .update r.table
    [("used", .next "used"), ("updated_at", .param (r.key.length + 1))]
    (r.conditions ++ [.less (.column "used") (.column "total")])
  params := r.key.map Prod.snd ++ [bind time]

/-- Asks whether the row is there. -/
def probe (r : CounterRow) : Command where
  statement := .probe r.table r.conditions
  params := r.key.map Prod.snd

end CounterRow

/-! ## Rows -/

/-- Reads a column. -/
def column (α : Type) [Column α] (row : Row) (name : String) : Except StoreError α :=
  (row.get name).mapError .database

/-- The kind of a discount as it is stored. -/
def readKind (row : Row) : Except StoreError DiscountKind := do
  let name ← column String row "discount_type"
  match DiscountKind.ofName? name with
  | some kind => .ok kind
  | none => .error (.corrupt (DiscountKind.unknownText name))

/-- The scope as it is stored. -/
def readScope (row : Row) : Except StoreError ScopeKind := do
  let name ← column String row "scope"
  match ScopeKind.ofName? name with
  | some scope => .ok scope
  | none => .error (.corrupt (ScopeKind.unknownText name))

/-- The rule as it is stored. -/
def readRule (row : Row) : Except StoreError DiscountRule := do
  let kind ← readKind row
  let value ← column Int row "discount_value"
  (DiscountRule.ofParts kind value).mapError fun fault => .corrupt fault.message

/-- The counter of a coupon. Only a limited coupon with a total has one. -/
def readCounter (row : Row) (scope : ScopeKind) (total : Option Int) :
    Except StoreError (Option Usage) :=
  match scope, total with
  | .limited, some total => do
    let used ← column Int row "used"
    return some ⟨used, total⟩
  | _, _ => .ok none

/-- The coupon in a row. -/
def readCoupon (row : Row) : Except StoreError Coupon := do
  let discount ← readRule row
  let scope ← readScope row
  let total ← column (Option Int) row "total"
  return {
    id := ← column CouponId row "id"
    code := ← column String row "code"
    validFrom := ← column Instant row "valid_from"
    validTo := ← column Instant row "valid_to"
    discount := discount
    scope := scope
    usage := ← readCounter row scope total
    description := ← column (Option String) row "description"
    imageUrl := ← column (Option String) row "image_url"
    createdBy := ← column UserId row "created_by"
    createdAt := ← column Instant row "created_at"
    updatedAt := ← column (Option Instant) row "updated_at" }

/-- The counter in a row. -/
def readUsage (row : Row) : Except StoreError Usage := do
  return ⟨← column Int row "used", ← column Int row "total"⟩

/-- The redemption in a row of the log. -/
def readUse (row : Row) : Except StoreError RedemptionRecord := do
  return {
    id := ← column Int row "id"
    couponId := ← column CouponId row "coupon_id"
    userId := ← column UserId row "user_id"
    productId := ← column (Option ProductId) row "product_id"
    redeemedAt := ← column Instant row "created_at" }

/-- The entry of a history in a row. -/
def readUsed (row : Row) : Except StoreError UsedCoupon := do
  return {
    code := ← column String row "code"
    description := ← column (Option String) row "description"
    imageUrl := ← column (Option String) row "image_url"
    appliedAt := ← column Instant row "created_at" }

/-! ## Calls -/

/-- A taken code is told apart by the constraint that it violates. -/
def ofInsert (code : String) : DatabaseError → StoreError
  | .refused e =>
    if e.violated = some "unique_coupon_code" then .duplicateCode code else .database (.refused e)
  | e => .database e

/-- Writes a coupon and its grant. -/
def writeCoupon (c : NewCoupon) : SessionProgram (Except StoreError CouponId) := do
  match ← Session.value Int (insertCoupon c) with
  | .error e => return .error (ofInsert c.code e)
  | .ok id =>
    match insertGrant? id c with
    | none => return .ok ⟨id⟩
    | some grant =>
      match ← Session.affected grant with
      | .error e => return .error (.database e)
      | .ok _ => return .ok ⟨id⟩

/-- Stores a coupon, unless something is wrong with it. -/
def createCoupon (c : NewCoupon) : SessionProgram (Except StoreError CouponId) :=
  match c.fault? with
  | some fault => return .error (.invalidCoupon fault.message)
  | none => Session.transaction .database (writeCoupon c)

/-- Removes a coupon and its grants. -/
def deleteCoupon (id : CouponId) : SessionProgram (Except StoreError Unit) := do
  match ← Session.affected (deleteById id) with
  | .error e => return .error (.database e)
  | .ok 0 => return .error (.couponIdNotFound id)
  | .ok _ => return .ok ()

/-- The coupon with a code. -/
def getByCode (code : String) : SessionProgram (Except StoreError Coupon) := do
  match ← Session.row? (selectByCode code) with
  | .error e => return .error (.database e)
  | .ok none => return .error (.couponNotFound code)
  | .ok (some row) => return readCoupon row

/-- The counter that a statement finds, if any. -/
def findUsage (command : Command) : SessionProgram (Except StoreError (Option Usage)) := do
  match ← Session.row? command with
  | .error e => return .error (.database e)
  | .ok none => return .ok none
  | .ok (some row) => return (readUsage row).map some

/-- The grant of a coupon for a user. -/
def getUserGrant (id : CouponId) (userId : UserId) :
    SessionProgram (Except StoreError (Option UserGrant)) := do
  let found ← findUsage (selectGrant "user_coupons" "user_id" id (bind userId))
  return found.map fun usage? => usage?.map fun usage => ⟨id, userId, usage⟩

/-- The grant of a coupon for a product. -/
def getProductGrant (id : CouponId) (productId : ProductId) :
    SessionProgram (Except StoreError (Option ProductGrant)) := do
  let found ← findUsage (selectGrant "product_coupons" "product_id" id (bind productId))
  return found.map fun usage? => usage?.map fun usage => ⟨id, productId, usage⟩

/-- Records a redemption. -/
def insertRedemption (id : CouponId) (userId : UserId) (productId : Option ProductId)
    (time : Instant) : SessionProgram (Except StoreError RedemptionRecord) := do
  match ← Session.row (insertUse id userId productId time) with
  | .error e => return .error (.database e)
  | .ok row => return readUse row

/-- Why there is no counter to raise. -/
def missingCounter (scope : ScopeKind) (id : CouponId) (userId : UserId)
    (productId : Option ProductId) : StoreError :=
  match scope, productId with
  | .limited, _ => .couponIdNotFound id
  | .user, _ => .grantNotFound id s!"user {userId.display}"
  | .product, some productId => .grantNotFound id s!"product {productId.display}"
  | .product, none => .missingSubject "product"

/-- Why no counter was raised: it is at its bound, or it is missing. -/
def explainRefusal (counter : CounterRow) (coupon : Coupon) (userId : UserId)
    (productId : Option ProductId) : SessionProgram StoreError := do
  match ← Session.value Bool counter.probe with
  | .error e => return .database e
  | .ok true => return .quotaExhausted coupon.id coupon.scope.name
  | .ok false => return missingCounter coupon.scope coupon.id userId productId

/-- Raises the counter of a coupon and records the redemption. -/
def writeRedemption (coupon : Coupon) (userId : UserId) (productId : Option ProductId)
    (time : Instant) : SessionProgram (Except StoreError RedemptionRecord) := do
  match CounterRow.of? coupon.scope coupon.id userId productId with
  | none => return .error (.missingSubject "product")
  | some counter =>
    match ← Session.affected (counter.raise time) with
    | .error e => return .error (.database e)
    | .ok 0 => return .error (← explainRefusal counter coupon userId productId)
    | .ok _ => insertRedemption coupon.id userId productId time

/-- Takes one use of a coupon and records it. -/
def redeem (coupon : Coupon) (userId : UserId) (productId : Option ProductId) (time : Instant) :
    SessionProgram (Except StoreError RedemptionRecord) :=
  Session.transaction .database (writeRedemption coupon userId productId time)

/-- The history of a user. -/
def listUsedByUser (userId : UserId) : SessionProgram (Except StoreError (List UsedCoupon)) := do
  match ← Session.rows (selectUses userId) with
  | .error e => return .error (.database e)
  | .ok rows => return rows.mapM readUsed

/-- Answers a call to the store. -/
def answer : (c : StoreCall) → SessionProgram c.Answer
  | .createCoupon coupon => createCoupon coupon
  | .deleteCoupon id => deleteCoupon id
  | .getByCode code => getByCode code
  | .getUserGrant id userId => getUserGrant id userId
  | .getProductGrant id productId => getProductGrant id productId
  | .insertRedemption id userId productId time => insertRedemption id userId productId time
  | .redeem coupon userId productId time => redeem coupon userId productId time
  | .listUsedByUser userId => listUsedByUser userId

end Couponry.Sql.Coupons
