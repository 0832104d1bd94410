import Couponry.Deployment
import Couponry.Proofs.Program.Follows

/-!
# The course of a purchase

What an attempt to purchase does to the two stores, when the coupon component is in the same process:
which call it makes at which stage, and to which stage each answer leads. A stage keeps what later
steps depend on. `follows_program` says that the program of an attempt follows this course whatever it
is answered, so that statements about many attempts at once can be proved from the steps of the
course alone.
-/

namespace Couponry

/-- An attempt to purchase: who buys what, perhaps with a coupon. -/
structure Attempt where
  caller : Identity
  productId : ProductId
  coupon : Option String
  deriving DecidableEq, Repr

namespace Attempt

/-- What an attempt does. -/
def program (a : Attempt) : SystemProgram (Except PurchaseError PurchaseRecord) :=
  Deployment.purchase Deployment.inProcess a.caller a.productId a.coupon

end Attempt

/-- How far an attempt has come. -/
inductive Course where
  /-- The product is looked up next. -/
  | start
  /-- The clock is read next, for the check of the coupon. -/
  | checking
  /-- The coupon is looked up next, for the check at this time. -/
  | timed (now : Instant)
  /-- The grant of this coupon is read next. -/
  | granting (coupon : Coupon)
  /-- A transaction is opened next. -/
  | ready
  /-- The purchase is written next. -/
  | opened (tx : TxId)
  /-- The coupon is looked up again next, or without a coupon the transaction is committed. -/
  | written (tx : TxId) (record : PurchaseRecord)
  /-- The clock is read next, for the redemption of this coupon. -/
  | found (tx : TxId) (record : PurchaseRecord) (coupon : Coupon)
  /-- This coupon is redeemed next. -/
  | redeeming (tx : TxId) (record : PurchaseRecord) (coupon : Coupon) (now : Instant)
  /-- The transaction is rolled back next. -/
  | refused (tx : TxId) (e : PurchaseError)
  /-- The transaction is committed next, with the coupon redeemed. -/
  | redeemed (tx : TxId) (record : PurchaseRecord) (redemption : RedemptionRecord)
  | committed (record : PurchaseRecord) (redemption : Option RedemptionRecord)
  /-- The coupon is redeemed and the purchase is not committed. -/
  | orphaned (redemption : RedemptionRecord) (code : String) (reason : ProductStoreError)
  | failed (e : PurchaseError)

namespace Course

/-! ## Where answers lead -/

/-- An attempt that is over because its coupon was refused. -/
def unusable (e : CouponError) : Course :=
  .failed (.coupon (.ofCoupon e))

/-- An attempt that goes back because its coupon was refused. -/
def back (tx : TxId) (e : CouponError) : Course :=
  .refused tx (.coupon (.ofCoupon e))

/-- After the product was looked up. -/
def lookedUp (coupon : Option String) : Except ProductStoreError Product → Course
  | .error e => .failed (.ofLookup e)
  | .ok _ => if coupon.isSome then .checking else .ready

/-- After a counter was read. -/
def judged (code : String) (u : Usage) : Course :=
  if u.isExhausted then .failed (.couponNotUsable code) else .ready

/-- After the coupon was looked up for the check. -/
def checked (code : String) (now : Instant) : Except StoreError Coupon → Course
  | .error e => unusable (.ofStore e)
  | .ok c =>
    if c.isActiveAt now then
      match c.scope with
      | .limited =>
        match Eligibility.limitedUsage c with
        | .error e => unusable e
        | .ok u => judged code u
      | .user | .product => .granting c
    else .failed (.couponNotUsable code)

/-- After the counter of the grant was read; if there is no grant, it is told in these words. -/
def granted (code missing : String) : Except StoreError (Option Usage) → Course
  | .error e => unusable (.ofStore e)
  | .ok none => unusable (.internal missing)
  | .ok (some u) => judged code u

/-- After a transaction was opened. -/
def begun : Except ProductStoreError TxId → Course
  | .error e => .failed (.store e)
  | .ok tx => .opened tx

/-- After the purchase was written. -/
def wrote (tx : TxId) : Except ProductStoreError PurchaseRecord → Course
  | .error e => .refused tx (.store e)
  | .ok record => .written tx record

/-- After the coupon was looked up for the redemption. -/
def foundAgain (tx : TxId) (record : PurchaseRecord) : Except StoreError Coupon → Course
  | .error e => back tx (.ofStore e)
  | .ok c => .found tx record c

/-- After the clock was read for the redemption. -/
def clocked (tx : TxId) (record : PurchaseRecord) (c : Coupon) (code : String) (now : Instant) :
    Course :=
  if c.isActiveAt now then .redeeming tx record c now
  else back tx (.failedPrecondition s!"coupon {code} is outside its validity window")

/-- After the redemption. -/
def tookUse (tx : TxId) (record : PurchaseRecord) : Except StoreError RedemptionRecord → Course
  | .error e => back tx (.ofStore e)
  | .ok r => .redeemed tx record r

/-- After the commit of a purchase without a coupon. -/
def paid (record : PurchaseRecord) : Except ProductStoreError Unit → Course
  | .error e => .failed (.store e)
  | .ok () => .committed record none

/-- After the commit of a purchase with a redeemed coupon. -/
def paidWith (record : PurchaseRecord) (r : RedemptionRecord) (code : String) :
    Except ProductStoreError Unit → Course
  | .error e => .orphaned r code e
  | .ok () => .committed record (some r)

/-! ## Steps -/

/-- The steps of an attempt. Observations are noted at any stage. -/
inductive Step (a : Attempt) : Course → (c : SystemCall) → SystemCalls.Answer c → Course → Prop where
  | note (x : Course) (o : Observation) (answer : Unit) : Step a x (.host (.note o)) answer x
  | lookup (answer : Except ProductStoreError Product) :
      Step a .start (.products (.getProduct a.productId)) answer (lookedUp a.coupon answer)
  | checkTime (now : Instant) : Step a .checking (.host .now) now (.timed now)
  | check {code : String} (coupon : a.coupon = some code) (now : Instant)
      (answer : Except StoreError Coupon) :
      Step a (.timed now) (.store (.getByCode code)) answer (checked code now answer)
  | userGrant {code : String} (coupon : a.coupon = some code) {c : Coupon} (scope : c.scope = .user)
      (answer : Except StoreError (Option UserGrant)) :
      Step a (.granting c) (.store (.getUserGrant c.id a.caller.userId)) answer
        (granted code s!"coupon {c.id.display} has no grant for user {a.caller.userId.display}"
          (answer.map (Option.map UserGrant.usage)))
  | productGrant {code : String} (coupon : a.coupon = some code) {c : Coupon}
      (scope : c.scope = .product) (answer : Except StoreError (Option ProductGrant)) :
      Step a (.granting c) (.store (.getProductGrant c.id a.productId)) answer
        (granted code s!"coupon {c.id.display} has no grant for product {a.productId.display}"
          (answer.map (Option.map ProductGrant.usage)))
  | begin (answer : Except ProductStoreError TxId) :
      Step a .ready (.products .begin) answer (begun answer)
  | writeTime (tx : TxId) (now : Instant) : Step a (.opened tx) (.host .now) now (.opened tx)
  | write (tx : TxId) {p : NewPurchase} (user : p.userId = a.caller.userId)
      (product : p.productId = a.productId) (coupon : p.coupon = a.coupon)
      (answer : Except ProductStoreError PurchaseRecord) :
      Step a (.opened tx) (.products (.insertPurchase tx p)) answer (wrote tx answer)
  | find {code : String} (coupon : a.coupon = some code) (tx : TxId) (record : PurchaseRecord)
      (answer : Except StoreError Coupon) :
      Step a (.written tx record) (.store (.getByCode code)) answer (foundAgain tx record answer)
  | redeemTime {code : String} (coupon : a.coupon = some code) (tx : TxId) (record : PurchaseRecord)
      (c : Coupon) (now : Instant) :
      Step a (.found tx record c) (.host .now) now (clocked tx record c code now)
  | redeem (tx : TxId) (record : PurchaseRecord) (c : Coupon) (now : Instant)
      (answer : Except StoreError RedemptionRecord) :
      Step a (.redeeming tx record c now) (.store (.redeem c a.caller.userId (some a.productId) now))
        answer (tookUse tx record answer)
  | rollback (tx : TxId) (e : PurchaseError) (answer : Except ProductStoreError Unit) :
      Step a (.refused tx e) (.products (.rollback tx)) answer (.failed e)
  | commit (plain : a.coupon = none) (tx : TxId) (record : PurchaseRecord)
      (answer : Except ProductStoreError Unit) :
      Step a (.written tx record) (.products (.commit tx)) answer (paid record answer)
  | commitWith {code : String} (coupon : a.coupon = some code) (tx : TxId) (record : PurchaseRecord)
      (r : RedemptionRecord) (answer : Except ProductStoreError Unit) :
      Step a (.redeemed tx record r) (.products (.commit tx)) answer (paidWith record r code answer)

/-- The result with which an attempt ends at a stage. -/
def result? : Course → Option (Except PurchaseError PurchaseRecord)
  | .committed record _ => some (.ok record)
  | .orphaned _ code reason => some (.error (.orphanedRedemption code reason.message))
  | .failed e => some (.error e)
  | _ => none

end Course

end Couponry
