import Couponry.Coupon.View
import Couponry.Host
import Couponry.Purchase.Store

/-!
# The purchase saga

Buying a product is one local step that can be undone, the record of the purchase, and one remote
step that cannot, the redemption of the coupon:

1. load the product and, with a coupon, check it;
2. open a transaction and write the purchase;
3. redeem the coupon, and roll back if that fails;
4. commit.

If the commit fails after the redemption, the redemption is an orphan. It is logged and counted, and
the caller is told. An attempt carries its state, and every change of state is checked.
-/

namespace Couponry

/-- A call to the coupon component. -/
inductive ClientCall where
  | check (code : String) (request : EligibilityRequest)
  | redeem (caller : Identity) (code : String) (productId : Option ProductId)
  deriving DecidableEq, Repr

/-- The value that a call to the coupon component gives when it does not fail. -/
def ClientCall.Result : ClientCall → Type
  | .check _ _ => CouponView
  | .redeem _ _ _ => Unit

/-- The answer to a call to the coupon component. -/
abbrev ClientCall.Answer (c : ClientCall) : Type :=
  Except ClientError c.Result

/-- A call of the saga. -/
inductive SagaCall where
  | products (c : ProductCall)
  | coupons (c : ClientCall)
  | host (c : HostCall)
  deriving DecidableEq, Repr

/-- The calls of the saga. -/
def SagaCalls : Signature where
  Call := SagaCall
  Answer
    | .products c => c.Answer
    | .coupons c => c.Answer
    | .host c => c.Answer

/-- A program of the saga. -/
abbrev SagaProgram (α : Type) : Type :=
  Program SagaCalls α

namespace Saga

/-- Calls the store of products. -/
def products (c : ProductCall) : SagaProgram c.Answer :=
  Program.call (S := SagaCalls) (.products c)

/-- Calls the coupon component. -/
def coupons (c : ClientCall) : SagaProgram c.Answer :=
  Program.call (S := SagaCalls) (.coupons c)

/-- The time. -/
def now : SagaProgram Instant :=
  Program.call (S := SagaCalls) (.host .now)

/-- Writes an event. -/
def log (e : Event) : SagaProgram Unit :=
  Program.call (S := SagaCalls) (.host (.note (.event e)))

/-- Raises a counter. -/
def count (c : Counter) : SagaProgram Unit :=
  Program.call (S := SagaCalls) (.host (.note (.count c)))

/-- The outcome of an attempt, and the last state it was in. -/
abbrev Outcome : Type :=
  Except PurchaseError PurchaseRecord × PurchaseState

/-- Moves an attempt to its next state, and goes on from there. -/
def advance (state next : PurchaseState) (rest : SagaProgram Outcome) : SagaProgram Outcome := do
  if state.canMoveTo next then
    log (.purchaseMoved state next)
    rest
  else return (.error (.invalidState state next), state)

/-- Rolls a transaction back. A failure to do so is only logged. -/
def rollback (tx : TxId) : SagaProgram Unit := do
  match ← products (.rollback tx) with
  | .ok () => return ()
  | .error e => log (.rollbackFailed e)

/-- The purchase that an attempt writes. -/
def purchaseOf (caller : Identity) (product : Product) (productId : ProductId)
    (discounted : Money) (coupon : Option String) (now : Instant) : NewPurchase where
  productId := productId
  userId := caller.userId
  price := product.price
  discountedPrice := discounted
  total := discounted.nonNegative
  coupon := coupon
  purchasedAt := now

/-- The commit, in state `state`. -/
def finish (state : PurchaseState) (caller : Identity) (productId : ProductId)
    (coupon : Option String) (tx : TxId) (record : PurchaseRecord) : SagaProgram Outcome := do
  match ← products (.commit tx) with
  | .ok () => advance state .committed (return (.ok record, .committed))
  | .error e =>
    match coupon with
    | some code =>
      count .orphanedRedemptions
      log (.redemptionOrphaned code caller.userId productId e)
      return (.error (.orphanedRedemption code e.message), state)
    | none => return (.error (.store e), state)

/-- The redemption, if there is a coupon, and what follows it. -/
def redeem (caller : Identity) (productId : ProductId) (coupon : Option String) (tx : TxId)
    (record : PurchaseRecord) : SagaProgram Outcome :=
  match coupon with
  | none => finish .reserving caller productId none tx record
  | some code =>
    advance .reserving .redeeming do
      match ← coupons (.redeem caller code (some productId)) with
      | .ok () => finish .redeeming caller productId (some code) tx record
      | .error e =>
        rollback tx
        return (.error (.coupon e), .redeeming)

/-- The transaction, and what follows its opening. -/
def reserve (caller : Identity) (product : Product) (productId : ProductId) (discounted : Money)
    (coupon : Option String) : SagaProgram Outcome := do
  match ← products .begin with
  | .error e => return (.error (.store e), .eligibilityChecked)
  | .ok tx =>
    advance .eligibilityChecked .reserving do
      let now ← now
      let purchase := purchaseOf caller product productId discounted coupon now
      match ← products (.insertPurchase tx purchase) with
      | .ok record => redeem caller productId coupon tx record
      | .error e =>
        rollback tx
        return (.error (.store e), .reserving)

/-- The check of the coupon, if there is one, and what follows it. -/
def validate (caller : Identity) (product : Product) (productId : ProductId)
    (coupon : Option String) : SagaProgram Outcome := do
  match coupon with
  | none =>
    advance .validating .eligibilityChecked
      (reserve caller product productId product.price none)
  | some code =>
    match ← coupons (.check code (.enforceFor caller.userId (some productId))) with
    | .error e => return (.error (.coupon e), .validating)
    | .ok view =>
      if view.canUse then
        advance .validating .eligibilityChecked
          (reserve caller product productId (view.discount.apply product.price) (some code))
      else return (.error (.couponNotUsable code), .validating)

/-- The whole attempt, without the account of it. -/
def attempt (caller : Identity) (productId : ProductId) (coupon : Option String) :
    SagaProgram Outcome := do
  match ← products (.getProduct productId) with
  | .error e => return (.error (.ofLookup e), .validating)
  | .ok product => validate caller product productId coupon

/-- Moves a failed attempt to its end. -/
def markFailed (state : PurchaseState) : SagaProgram Unit :=
  if state.canMoveTo .failed then log (.purchaseMoved state .failed)
  else log (.purchaseStuck (.invalidState state .failed))

/-- Buys a product for the caller, perhaps with a coupon. -/
def purchase (caller : Identity) (productId : ProductId) (coupon : Option String) :
    SagaProgram (Except PurchaseError PurchaseRecord) := do
  count .purchaseAttempts
  let (result, state) ← attempt caller productId coupon
  count .purchaseDurations
  match result with
  | .ok record =>
    count .purchasesCompleted
    log (.purchaseCommitted record)
  | .error e =>
    markFailed state
    count (.purchasesFailed e.kind)
    log (.purchaseFailed state e)
  return result

end Saga

end Couponry
