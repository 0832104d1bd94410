import Couponry.Coupon.Store
import Couponry.Table

/-!
# The ledger

The store of coupons in memory. Every call is one step: it either fails and leaves the ledger as it
is, or does all it has to do. Ids count from one and are never given out twice.
-/

namespace Couponry

/-- Coupons by id and by code, grants by coupon and subject, and the redemptions in order. -/
structure Ledger where
  coupons : Table CouponId Coupon
  codes : Table String CouponId
  userGrants : Table (CouponId × UserId) UserGrant
  productGrants : Table (CouponId × ProductId) ProductGrant
  redemptions : List RedemptionRecord
  lastCouponId : Int
  lastRedemptionId : Int
  /-- Every redemption fails while this is set. -/
  failOnRedeem : Bool
  deriving DecidableEq, Repr

namespace Ledger

/-- Nothing is stored. -/
def empty : Ledger where
  coupons := .empty
  codes := .empty
  userGrants := .empty
  productGrants := .empty
  redemptions := []
  lastCouponId := 0
  lastRedemptionId := 0
  failOnRedeem := false

instance : Inhabited Ledger := ⟨empty⟩

/-- How many redemptions of a coupon there are. -/
def redemptionCount (l : Ledger) (id : CouponId) : Nat :=
  l.redemptions.countP fun r => decide (r.couponId = id)

/-! ## Creating and deleting -/

/-- The ledger with a coupon under the next id. -/
def addCoupon (l : Ledger) (c : NewCoupon) : Ledger :=
  let id : CouponId := ⟨l.lastCouponId + 1⟩
  let l := { l with
    coupons := l.coupons.insert id (c.stored id)
    codes := l.codes.insert c.code id
    lastCouponId := l.lastCouponId + 1 }
  match c.scope with
  | .limited => l
  | .perUser userId =>
    { l with userGrants := l.userGrants.insert (id, userId) ⟨id, userId, .fresh c.total⟩ }
  | .perProduct productId =>
    { l with
      productGrants := l.productGrants.insert (id, productId) ⟨id, productId, .fresh c.total⟩ }

/-- Stores a coupon, unless something is wrong with it or its code is taken. -/
def createCoupon (l : Ledger) (c : NewCoupon) : Except StoreError CouponId × Ledger :=
  match c.fault? with
  | some fault => (.error (.invalidCoupon fault.message), l)
  | none =>
    if l.codes.contains c.code then (.error (.duplicateCode c.code), l)
    else (.ok ⟨l.lastCouponId + 1⟩, l.addCoupon c)

/-- Removes a coupon with its code and its grants. -/
def deleteCoupon (l : Ledger) (id : CouponId) : Except StoreError Unit × Ledger :=
  match l.coupons.get? id with
  | none => (.error (.couponIdNotFound id), l)
  | some c =>
    (.ok (),
      { l with
        coupons := l.coupons.erase id
        codes := l.codes.erase c.code
        userGrants := l.userGrants.filterKeys fun k => decide (k.1 ≠ id)
        productGrants := l.productGrants.filterKeys fun k => decide (k.1 ≠ id) })

/-! ## Looking up -/

/-- The coupon with a code. -/
def getByCode (l : Ledger) (code : String) : Except StoreError Coupon :=
  match (l.codes.get? code).bind l.coupons.get? with
  | some c => .ok c
  | none => .error (.couponNotFound code)

/-- The history of a user: the redemptions by time and id, with the coupons that still exist. -/
def listUsedByUser (l : Ledger) (userId : UserId) : List UsedCoupon :=
  let mine := l.redemptions.filter fun r => decide (r.userId = userId)
  let sorted := mine.mergeSort fun a b =>
    decide (a.redeemedAt < b.redeemedAt ∨ a.redeemedAt = b.redeemedAt ∧ a.id ≤ b.id)
  sorted.filterMap fun r =>
    (l.coupons.get? r.couponId).map fun c => ⟨c.code, c.description, c.imageUrl, r.redeemedAt⟩

/-! ## Redeeming -/

/-- The record that the next redemption gets. -/
def nextRecord (l : Ledger) (id : CouponId) (userId : UserId) (productId : Option ProductId)
    (time : Instant) : RedemptionRecord :=
  ⟨l.lastRedemptionId + 1, id, userId, productId, time⟩

/-- The ledger with one more redemption. -/
def addRedemption (l : Ledger) (r : RedemptionRecord) : Ledger :=
  { l with redemptions := l.redemptions ++ [r], lastRedemptionId := r.id }

/-- Records a redemption. -/
def insertRedemption (l : Ledger) (id : CouponId) (userId : UserId) (productId : Option ProductId)
    (time : Instant) : RedemptionRecord × Ledger :=
  let r := l.nextRecord id userId productId time
  (r, l.addRedemption r)

/-- The counter that limits a use of a coupon. -/
inductive CounterKey where
  | coupon (id : CouponId)
  | user (id : CouponId) (userId : UserId)
  | product (id : CouponId) (productId : ProductId)
  deriving DecidableEq, Repr

/-- The counter of a redemption, if the request has what the scope counts by. -/
def counterKey (scope : ScopeKind) (id : CouponId) (userId : UserId)
    (productId : Option ProductId) : Except StoreError CounterKey :=
  match scope, productId with
  | .limited, _ => .ok (.coupon id)
  | .user, _ => .ok (.user id userId)
  | .product, some productId => .ok (.product id productId)
  | .product, none => .error (.missingSubject "product")

/-- The state of a counter. -/
def usage (l : Ledger) : CounterKey → Except StoreError Usage
  | .coupon id =>
    match l.coupons.get? id with
    | none => .error (.couponIdNotFound id)
    | some c =>
      match c.usage with
      | some u => .ok u
      | none => .error (.corrupt s!"limited coupon {id.display} has no counters")
  | .user id userId =>
    match l.userGrants.get? (id, userId) with
    | some g => .ok g.usage
    | none => .error (.grantNotFound id s!"user {userId.display}")
  | .product id productId =>
    match l.productGrants.get? (id, productId) with
    | some g => .ok g.usage
    | none => .error (.grantNotFound id s!"product {productId.display}")

/-- Sets a counter that exists. A limited coupon is updated at that time. -/
def setUsage (l : Ledger) (key : CounterKey) (u : Usage) (time : Instant) : Ledger :=
  match key with
  | .coupon id =>
    match l.coupons.get? id with
    | some c =>
      { l with coupons := l.coupons.insert id { c with usage := some u, updatedAt := some time } }
    | none => l
  | .user id userId =>
    match l.userGrants.get? (id, userId) with
    | some g => { l with userGrants := l.userGrants.insert (id, userId) { g with usage := u } }
    | none => l
  | .product id productId =>
    match l.productGrants.get? (id, productId) with
    | some g =>
      { l with productGrants := l.productGrants.insert (id, productId) { g with usage := u } }
    | none => l

/-- Takes one use of a coupon and records it. Of the coupon that is handed over only the id and the
scope matter; the counter is the stored one. -/
def redeem (l : Ledger) (coupon : Coupon) (userId : UserId) (productId : Option ProductId)
    (time : Instant) : Except StoreError RedemptionRecord × Ledger :=
  if l.failOnRedeem then (.error (.database .poolTimedOut), l)
  else
    match counterKey coupon.scope coupon.id userId productId with
    | .error e => (.error e, l)
    | .ok key =>
      match l.usage key with
      | .error e => (.error e, l)
      | .ok u =>
        if u.isExhausted then (.error (.quotaExhausted coupon.id coupon.scope.name), l)
        else
          let r := l.nextRecord coupon.id userId productId time
          (.ok r, (l.setUsage key u.bump time).addRedemption r)

/-! ## Answering -/

/-- Answers a call to the store. -/
def answer : (c : StoreCall) → Ledger → c.Answer × Ledger
  | .createCoupon coupon, l => l.createCoupon coupon
  | .deleteCoupon id, l => l.deleteCoupon id
  | .getByCode code, l => (l.getByCode code, l)
  | .getUserGrant id userId, l => (.ok (l.userGrants.get? (id, userId)), l)
  | .getProductGrant id productId, l => (.ok (l.productGrants.get? (id, productId)), l)
  | .insertRedemption id userId productId time, l =>
    let (r, l) := l.insertRedemption id userId productId time
    (.ok r, l)
  | .redeem coupon userId productId time, l => l.redeem coupon userId productId time
  | .listUsedByUser userId, l => (.ok (l.listUsedByUser userId), l)

end Ledger

end Couponry
