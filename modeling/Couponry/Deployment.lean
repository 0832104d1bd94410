import Couponry.Http.Client
import Couponry.Http.Router

/-!
# Deployments

How the parts are wired together. The API and the saga call the coupon component; in one process
that is the coupon service itself, at a distance it is the API of another process, reached by
requests over a network. What is left in the end are calls to the two stores and to the host.
-/

namespace Couponry

open Couponry.Http

/-- A call that a system of stores and a host answers. -/
inductive SystemCall where
  | store (c : StoreCall)
  | products (c : ProductCall)
  | host (c : HostCall)
  deriving DecidableEq, Repr

/-- The calls of a whole deployment. -/
def SystemCalls : Signature where
  Call := SystemCall
  Answer
    | .store c => c.Answer
    | .products c => c.Answer
    | .host c => c.Answer

/-- A program of a whole deployment. -/
abbrev SystemProgram (α : Type) : Type :=
  Program SystemCalls α

namespace Deployment

/-- Answers a call of the coupon service by the system. -/
def ofCoupon : (c : CouponCall) → SystemProgram (CouponCalls.Answer c)
  | .store c => Program.call (S := SystemCalls) (.store c)
  | .host c => Program.call (S := SystemCalls) (.host c)

/-- A program of the coupon service on the system. -/
def service {α : Type} (p : CouponProgram α) : SystemProgram α :=
  p.via ofCoupon

/-- The coupon component in the same process: the service itself. -/
def localClient : (c : ClientCall) → CouponProgram c.Answer
  | .check code request => do
    match ← Service.retrieveCoupon code request with
    | .ok view => return .ok view
    | .error e => return .error (.ofCoupon e)
  | .redeem caller code productId => do
    match ← Service.applyCoupon caller code productId with
    | .ok _ => return .ok ()
    | .error e => return .error (.ofCoupon e)

/-- How calls to the coupon component are answered. -/
abbrev Wiring : Type :=
  (c : ClientCall) → SystemProgram c.Answer

/-- Answers a call of the API. -/
def ofApi (wiring : Wiring) : (c : ApiCall) → SystemProgram (ApiCalls.Answer c)
  | .store c => Program.call (S := SystemCalls) (.store c)
  | .products c => Program.call (S := SystemCalls) (.products c)
  | .coupons c => wiring c
  | .host c => Program.call (S := SystemCalls) (.host c)

/-- The response of the API to a request. -/
def respond (wiring : Wiring) (r : Request) : SystemProgram Response :=
  (Router.respond r).via (ofApi wiring)

/-- Answers a call of the saga. -/
def ofSaga (wiring : Wiring) : (c : SagaCall) → SystemProgram (SagaCalls.Answer c)
  | .products c => Program.call (S := SystemCalls) (.products c)
  | .coupons c => wiring c
  | .host c => Program.call (S := SystemCalls) (.host c)

/-- A purchase. -/
def purchase (wiring : Wiring) (caller : Identity) (productId : ProductId)
    (coupon : Option String) : SystemProgram (Except PurchaseError PurchaseRecord) :=
  (Saga.purchase caller productId coupon).via (ofSaga wiring)

/-- The coupon component in the same process. -/
def inProcess : Wiring := fun c =>
  service (localClient c)

/-- The coupon component behind a network that answers requests. -/
def behind (network : Request → SystemProgram (Except TransportError Response)) (base : Url)
    (unread : Response → Option String) : Wiring := fun c =>
  (Client.answer base c unread).via network

/-- A network that takes every request to the API of a second process over the same stores. -/
def secondApi (r : Request) : SystemProgram (Except TransportError Response) := do
  let response ← respond inProcess r
  return .ok response

/-- The first instant that a server cannot put on a response, where a year has four digits. -/
def endOfDates : Instant :=
  .midnight 10000 1 1

/-- A network to a server that dates its responses: when it cannot, it drops every request unseen,
and any other time requests go to `network`. -/
def dated (network : Request → SystemProgram (Except TransportError Response)) (r : Request) :
    SystemProgram (Except TransportError Response) := do
  let now : Instant ← Program.call (S := SystemCalls) (.host .now)
  if now < endOfDates then network r else return .error .unreachable

/-- A network on which nobody answers. -/
def nobody (_ : Request) : SystemProgram (Except TransportError Response) :=
  return .error .unreachable

end Deployment

end Couponry
