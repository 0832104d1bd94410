import Couponry.Coupon.Ledger
import Couponry.Deployment
import Couponry.Purchase.Catalog

/-!
# Rehearsals

A deployment on a stage: both stores in memory, a clock that stands still until it is moved,
letters that are drawn in a fixed sequence, and a journal. Single calls to the stores can be made
to fail, in the order in which the failures were asked for, and the coupon component can be
replaced by one that follows cues. What a program does on the stage is then the same every time.
-/

namespace Couponry.Rehearsal

open Couponry.Http

/-- The calls to the store of coupons that can be made to fail. -/
inductive StoreMethod where
  | createCoupon
  | deleteCoupon
  | getByCode
  | getUserGrant
  | getProductGrant
  | redeem
  | listUsedByUser
  deriving DecidableEq, Repr

/-- The kind of a call, if it can be made to fail. -/
def StoreMethod.ofCall : StoreCall → Option StoreMethod
  | .createCoupon _ => some .createCoupon
  | .deleteCoupon _ => some .deleteCoupon
  | .getByCode _ => some .getByCode
  | .getUserGrant _ _ => some .getUserGrant
  | .getProductGrant _ _ => some .getProductGrant
  | .insertRedemption _ _ _ _ => none
  | .redeem _ _ _ _ => some .redeem
  | .listUsedByUser _ => some .listUsedByUser

/-- The kind of a call with a name. -/
def StoreMethod.ofName? : String → Option StoreMethod
  | "create_coupon" => some .createCoupon
  | "delete_coupon" => some .deleteCoupon
  | "get_by_code" => some .getByCode
  | "get_user_grant" => some .getUserGrant
  | "get_product_grant" => some .getProductGrant
  | "redeem" => some .redeem
  | "list_used_by_user" => some .listUsedByUser
  | _ => none

/-- The calls to the store of products that can be made to fail. -/
inductive ProductMethod where
  | createProduct
  | getProduct
  | begin
  | insertPurchase
  | commit
  | rollback
  deriving DecidableEq, Repr

/-- The kind of a call, if it can be made to fail. -/
def ProductMethod.ofCall : ProductCall → Option ProductMethod
  | .createProduct _ _ _ => some .createProduct
  | .getProduct _ => some .getProduct
  | .begin => some .begin
  | .insertPurchase _ _ => some .insertPurchase
  | .commit _ => some .commit
  | .rollback _ => some .rollback
  | .abandon _ => none

/-- The kind of a call with a name. -/
def ProductMethod.ofName? : String → Option ProductMethod
  | "create_product" => some .createProduct
  | "get_product" => some .getProduct
  | "begin" => some .begin
  | "insert_purchase" => some .insertPurchase
  | "commit" => some .commit
  | "rollback" => some .rollback
  | _ => none

/-- What the coupon component does with a check, when it follows cues. -/
inductive CheckCue where
  | view (v : CouponView)
  | error (e : ClientError)
  deriving DecidableEq, Repr

/-- What the coupon component does with a redemption, when it follows cues. -/
inductive RedeemCue where
  /-- Says that it redeemed, and does nothing. -/
  | pretend
  /-- Redeems for another caller first. -/
  | race (other : Identity)
  | error (e : ClientError)
  deriving DecidableEq, Repr

/-- How purchases reach the coupon component. -/
inductive ClientMode where
  | inProcess
  | cued
  | unreachable
  | remote
  deriving DecidableEq, Repr

/-- The state of a rehearsal. In a queue of failures or cues, `none` lets a call through. -/
structure Stage where
  now : Instant
  ledger : Ledger
  catalog : Catalog
  storeFaults : Table StoreMethod (List (Option StoreError))
  productFaults : Table ProductMethod (List (Option ProductStoreError))
  checkCues : List (Option CheckCue)
  redeemCues : List (Option RedeemCue)
  /-- The calls that the coupon component got while it followed cues. -/
  seen : List ClientCall
  /-- Coupons are looked up without their counters. -/
  stripUsage : Bool
  /-- How many letters were drawn. -/
  drawn : Nat
  /-- The codes that were handed to the store, in order. -/
  handed : List String
  journal : List Observation
  deriving DecidableEq, Repr

namespace Stage

/-- The stage before anything happens. -/
def start (now : Instant) : Stage where
  now := now
  ledger := .empty
  catalog := .empty
  storeFaults := .empty
  productFaults := .empty
  checkCues := []
  redeemCues := []
  seen := []
  stripUsage := false
  drawn := 0
  handed := []
  journal := []

/-- The letter that is drawn after `n` others. Every run of five gives another text, far from the
others. -/
def letterAt (n : Nat) : Letter :=
  let number := (7654321 + n / 5 * 1679617) % 36 ^ 5
  ⟨number / 36 ^ (n % 5) % 36, Nat.mod_lt _ (by decide)⟩

/-- Answers a call to the host. -/
def answerHost : (c : HostCall) → Stage → c.Answer × Stage
  | .now, s => (s.now, s)
  | .letter, s => (letterAt s.drawn, { s with drawn := s.drawn + 1 })
  | .note o, s => ((), { s with journal := s.journal ++ [o] })
  | .counters, s =>
    ((Observation.raised s.journal).map fun c => (c, Observation.total s.journal c), s)

/-! ## The store of coupons -/

/-- Makes later calls of a kind fail, or go through. -/
def addStoreFaults (s : Stage) (m : StoreMethod) (faults : List (Option StoreError)) : Stage :=
  { s with storeFaults := s.storeFaults.insert m ((s.storeFaults.get? m).getD [] ++ faults) }

/-- The next failure of a kind of call, which is used up. -/
def takeStoreFault (s : Stage) (m : StoreMethod) : Option StoreError × Stage :=
  match s.storeFaults.get? m with
  | some (fault :: rest) => (fault, { s with storeFaults := s.storeFaults.insert m rest })
  | _ => (none, s)

/-- A code that is refused as taken is the one that was handed over. -/
def faultOf (c : StoreCall) (e : StoreError) : StoreError :=
  match c, e with
  | .createCoupon coupon, .duplicateCode _ => .duplicateCode coupon.code
  | _, e => e

/-- Keeps the code of a coupon that is handed to the store. -/
def handOver (s : Stage) : StoreCall → Stage
  | .createCoupon coupon => { s with handed := s.handed ++ [coupon.code] }
  | _ => s

/-- What is left of an answer when counters are stripped. -/
def stripped : (c : StoreCall) → c.Answer → c.Answer
  | .getByCode _, .ok coupon => .ok { show Coupon from coupon with usage := none }
  | _, answer => answer

/-- A call that goes through to the ledger. -/
def passStore (c : StoreCall) (s : Stage) : c.Answer × Stage :=
  let (answer, ledger) := s.ledger.answer c
  (if s.stripUsage then stripped c answer else answer, { s with ledger := ledger })

/-- Answers a call to the store of coupons. -/
def answerStore (c : StoreCall) (s : Stage) : c.Answer × Stage :=
  let s := s.handOver c
  match StoreMethod.ofCall c with
  | none => passStore c s
  | some m =>
    match s.takeStoreFault m with
    | (some e, s) => (.error (faultOf c e), s)
    | (none, s) => passStore c s

/-! ## The store of products -/

/-- Makes later calls of a kind fail, or go through. -/
def addProductFaults (s : Stage) (m : ProductMethod) (faults : List (Option ProductStoreError)) :
    Stage :=
  { s with productFaults := s.productFaults.insert m ((s.productFaults.get? m).getD [] ++ faults) }

/-- The next failure of a kind of call, which is used up. -/
def takeProductFault (s : Stage) (m : ProductMethod) : Option ProductStoreError × Stage :=
  match s.productFaults.get? m with
  | some (fault :: rest) => (fault, { s with productFaults := s.productFaults.insert m rest })
  | _ => (none, s)

/-- A transaction that fails to end is discarded all the same. -/
def lose (s : Stage) : ProductCall → Stage
  | .commit tx | .rollback tx => { s with catalog := s.catalog.discard tx }
  | _ => s

/-- A call that goes through to the catalog. -/
def passProducts (c : ProductCall) (s : Stage) : c.Answer × Stage :=
  let (answer, catalog) := s.catalog.answer c
  (answer, { s with catalog := catalog })

/-- Answers a call to the store of products. -/
def answerProducts (c : ProductCall) (s : Stage) : c.Answer × Stage :=
  match ProductMethod.ofCall c with
  | none => passProducts c s
  | some m =>
    match s.takeProductFault m with
    | (some e, s) => (.error e, s.lose c)
    | (none, s) => passProducts c s

/-! ## Whole programs -/

/-- Answers a call of a deployment. -/
def answer : (c : SystemCall) → Stage → SystemCalls.Answer c × Stage
  | .store c, s => s.answerStore c
  | .products c, s => s.answerProducts c
  | .host c, s => s.answerHost c

/-- Runs a program of a deployment. -/
def perform {α : Type} (p : SystemProgram α) (s : Stage) : α × Stage :=
  p.run answer s

/-- The address of the second API. -/
def secondAddress : Url :=
  ⟨[[]], none⟩

/-- A redemption by the service itself. -/
def redeemDirectly (caller : Identity) (code : String) (productId : Option ProductId) (s : Stage) :
    Except ClientError Unit × Stage :=
  s.perform (Deployment.inProcess (.redeem caller code productId))

/-- The coupon component that follows cues. Without a cue it is the service itself. -/
def answerCued : (c : ClientCall) → Stage → c.Answer × Stage
  | .check code request, s =>
    let s := { s with seen := s.seen ++ [ClientCall.check code request] }
    match s.checkCues with
    | some (.view v) :: rest => (.ok v, { s with checkCues := rest })
    | some (.error e) :: rest => (.error e, { s with checkCues := rest })
    | cues =>
      { s with checkCues := cues.drop 1 }.perform (Deployment.inProcess (.check code request))
  | .redeem caller code productId, s =>
    let s := { s with seen := s.seen ++ [ClientCall.redeem caller code productId] }
    match s.redeemCues with
    | some .pretend :: rest => (.ok (), { s with redeemCues := rest })
    | some (.error e) :: rest => (.error e, { s with redeemCues := rest })
    | some (.race other) :: rest =>
      match { s with redeemCues := rest }.redeemDirectly other code productId with
      | (.ok (), s) => s.redeemDirectly caller code productId
      | (.error e, s) => (.error e, s)
    | cues => { s with redeemCues := cues.drop 1 }.redeemDirectly caller code productId

/-- Answers a call to the coupon component. -/
def answerClient (mode : ClientMode) (c : ClientCall) (s : Stage) : c.Answer × Stage :=
  match mode with
  | .inProcess => s.perform (Deployment.inProcess c)
  | .cued => s.answerCued c
  | .unreachable => s.perform (Deployment.behind Deployment.nobody secondAddress Client.untold c)
  | .remote =>
    s.perform (Deployment.behind (Deployment.dated Deployment.secondApi) secondAddress Client.untold c)

/-- Answers a call of the saga. -/
def answerSaga (mode : ClientMode) : (c : SagaCall) → Stage → SagaCalls.Answer c × Stage
  | .products c, s => s.answerProducts c
  | .coupons c, s => s.answerClient mode c
  | .host c, s => s.answerHost c

/-- Answers a call of the API. -/
def answerApi (mode : ClientMode) : (c : ApiCall) → Stage → ApiCalls.Answer c × Stage
  | .store c, s => s.answerStore c
  | .products c, s => s.answerProducts c
  | .coupons c, s => s.answerClient mode c
  | .host c, s => s.answerHost c

/-- A purchase. -/
def purchase (mode : ClientMode) (caller : Identity) (productId : ProductId)
    (coupon : Option String) (s : Stage) : Except PurchaseError PurchaseRecord × Stage :=
  (Saga.purchase caller productId coupon).run (answerSaga mode) s

/-- Purchases by several users, one after another. -/
def purchases (mode : ClientMode) (productId : ProductId) (coupon : Option String) :
    List UserId → Stage → List (Except PurchaseError PurchaseRecord) × Stage
  | [], s => ([], s)
  | userId :: rest, s =>
    let (result, s) := s.purchase mode ⟨userId, .user⟩ productId coupon
    let (results, s) := s.purchases mode productId coupon rest
    (result :: results, s)

/-- The response of the API to a request. -/
def respond (mode : ClientMode) (r : Request) (s : Stage) : Response × Stage :=
  (Router.respond r).run (answerApi mode) s

end Stage

end Couponry.Rehearsal
