import Couponry.Coupon.Service
import Couponry.Http.Error
import Couponry.Purchase.Saga

/-!
# The calls of the API

What the handlers of the API may call: both stores, the coupon component as a purchase reaches it,
and the host. Programs of the coupon service and of the saga run as parts of a handler.
-/

namespace Couponry.Http

/-- A call of the API. -/
inductive ApiCall where
  | store (c : StoreCall)
  | products (c : ProductCall)
  | coupons (c : ClientCall)
  | host (c : HostCall)
  deriving DecidableEq, Repr

/-- The calls of the API. -/
def ApiCalls : Signature where
  Call := ApiCall
  Answer
    | .store c => c.Answer
    | .products c => c.Answer
    | .coupons c => c.Answer
    | .host c => c.Answer

/-- A program of the API. -/
abbrev ApiProgram (α : Type) : Type :=
  Program ApiCalls α

namespace Api

/-- Calls the store of products. -/
def products (c : ProductCall) : ApiProgram c.Answer :=
  Program.call (S := ApiCalls) (.products c)

/-- Calls the host. -/
def host (c : HostCall) : ApiProgram c.Answer :=
  Program.call (S := ApiCalls) (.host c)

/-- Answers a call of the coupon service. -/
def ofCoupon : (c : CouponCall) → ApiProgram (CouponCalls.Answer c)
  | .store c => Program.call (S := ApiCalls) (.store c)
  | .host c => Program.call (S := ApiCalls) (.host c)

/-- Answers a call of the saga. -/
def ofSaga : (c : SagaCall) → ApiProgram (SagaCalls.Answer c)
  | .products c => Program.call (S := ApiCalls) (.products c)
  | .coupons c => Program.call (S := ApiCalls) (.coupons c)
  | .host c => Program.call (S := ApiCalls) (.host c)

/-- A program of the coupon service, as part of a handler. -/
def service {α : Type} (p : CouponProgram α) : ApiProgram α :=
  p.via ofCoupon

/-- A program of the saga, as part of a handler. -/
def saga {α : Type} (p : SagaProgram α) : ApiProgram α :=
  p.via ofSaga

/-- The response to a failure. One of our own is logged. -/
def fail (e : ApiError) : ApiProgram Response := do
  if e.kind = .internal then
    host (.note (.event (.requestFailed e.message)))
  return e.response

end Api

end Couponry.Http
