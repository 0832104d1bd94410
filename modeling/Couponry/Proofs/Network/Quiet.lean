import Couponry.Proofs.Network.Tally
import Couponry.Proofs.Purchase.Market

/-!
# Looking up is quiet

Whatever is asked for with `GET` or `HEAD`, the router only reads and observes: it consumes no use, and it
reports no redemption that is left behind.
-/

namespace Couponry

open Couponry.Http Couponry.Program

/-- A quiet call leaves the stores as they are. -/
theorem Stores.serve_of_quiet {c : SystemCall} (quiet : c.Quiet) (s : Stores) (host : HostAnswers) :
    (s.serve host c).2 = s := by
  cases c with
  | store c =>
    cases c with
    | getByCode | getUserGrant | getProductGrant | listUsedByUser => rfl
    | createCoupon | deleteCoupon | insertRedemption | redeem => exact quiet.elim
  | products c =>
    cases c with
    | getProduct => rfl
    | createProduct | begin | insertPurchase | commit | rollback | abandon => exact quiet.elim
  | host c => rfl

/-- A call of the API that a quiet system answers. -/
def Http.ApiCall.Quiet : ApiCall → Prop
  | .store c => c.Reads
  | .products _ | .coupons _ => False
  | .host c => c ≠ .note (.count .orphanedRedemptions)

/-- Nothing is to be changed by the request. -/
def Http.Request.Reads (r : Request) : Prop :=
  r.method = "GET" ∨ r.method = "HEAD"

section Router

variable {α : Type}

theorem quiet_service {p : CouponProgram α} (quiet : p.Only CouponCall.Quiet) :
    (Api.service p).Only ApiCall.Quiet := by
  refine quiet.via fun c allowed => ?_
  cases c <;> exact ⟨allowed, fun _ => trivial⟩

theorem quiet_fail (e : ApiError) : (Api.fail e).Only ApiCall.Quiet := by
  unfold Api.fail
  split
  · exact ⟨nofun, fun _ => trivial⟩
  · trivial

theorem quiet_given {taken : Except Response α} {next : α → ApiProgram Response}
    (quiet : ∀ a, (next a).Only ApiCall.Quiet) : (Router.given taken next).Only ApiCall.Quiet := by
  cases taken with
  | error response => trivial
  | ok a => exact quiet a

theorem quiet_withCaller {r : Request} {next : Identity → ApiProgram Response}
    (quiet : ∀ caller, (next caller).Only ApiCall.Quiet) :
    (Router.withCaller r next).Only ApiCall.Quiet := by
  unfold Router.withCaller
  split
  · exact quiet _
  · exact quiet_fail _

theorem quiet_retrieve (r : Request) (segment : List Char) :
    (Router.retrieveCoupon r segment).Only ApiCall.Quiet := by
  refine quiet_given fun code => quiet_given fun q => ?_
  refine (quiet_service (quiet_retrieveCoupon _ _)).bind fun view => ?_
  cases view with
  | error e => exact quiet_fail _
  | ok view => trivial

theorem quiet_history (r : Request) : (Router.listUsed r).Only ApiCall.Quiet := by
  refine quiet_withCaller fun caller => ?_
  refine (quiet_service (quiet_listUsed caller)).bind fun used => ?_
  cases used with
  | error e => exact quiet_fail _
  | ok used => trivial

/-- What a route answers to `GET` or `HEAD` is quiet. -/
theorem quiet_handle (r : Request) {method : String} (reads : method = "GET" ∨ method = "HEAD") (route : Route)
    (has : route.methods.contains method = true) : (Router.handle r method route).Only ApiCall.Quiet := by
  have posts : ["POST"].contains method = false := by rcases reads with rfl | rfl <;> decide
  cases route with
  | health => trivial
  | metrics => exact ⟨nofun, fun _ => trivial⟩
  | used => exact quiet_history r
  | coupon segment =>
    have kept : method ≠ "DELETE" := by rcases reads with rfl | rfl <;> decide
    rw [Router.handle, if_neg kept]
    exact quiet_retrieve r segment
  | coupons | apply | products | purchase => exact absurd has (by simp only [Route.methods, posts]; decide)

/-- **Every route that answers to `GET` or `HEAD` is quiet.** -/
theorem quiet_dispatch {r : Request} (reads : r.Reads) (route : Option Route) :
    (Router.dispatch r route).Only ApiCall.Quiet := by
  unfold Router.dispatch
  split
  · trivial
  · next route =>
    split
    · next has => exact quiet_handle r reads route has
    · split <;> trivial

/-- Quiet calls of the API are answered by quiet calls. -/
theorem quiet_ofApi {p : ApiProgram α} (quiet : p.Only ApiCall.Quiet) (wiring : Deployment.Wiring) :
    (p.via (Deployment.ofApi wiring)).Only SystemCall.Quiet := by
  refine Only.via (T := SystemCalls) quiet fun c allowed => ?_
  cases c with
  | store c => exact ⟨allowed, fun _ => trivial⟩
  | host c => exact ⟨allowed, fun _ => trivial⟩
  | products c => exact allowed.elim
  | coupons c => exact allowed.elim

/-- The response to such a request is made quietly. -/
theorem quiet_respond {r : Request} (reads : r.Reads) :
    (Deployment.respond Deployment.inProcess r).Only SystemCall.Quiet := by
  have asked : (Router.respond r).Only ApiCall.Quiet :=
    (quiet_dispatch reads _).bind (f := fun response => Pure.pure (Router.sent r response))
      fun _ => trivial
  exact quiet_ofApi asked _

end Router

/-- **A quiet program leaves the stores as they are.** -/
theorem Stores.run_of_quiet {α : Type} {p : SystemProgram α} (quiet : p.Only SystemCall.Quiet)
    (s : Stores × HostScript) : (p.run Stores.attend s).2.1 = s.1 := by
  have step : ∀ c (s : Stores × HostScript), c.Quiet → s.1 = (Stores.attend c s).2.1 := by
    intro c s quiet
    exact (Stores.serve_of_quiet quiet s.1 (s.2 0)).symm
  exact (quiet.run (R := fun s s' : Stores × HostScript => s.1 = s'.1) (fun _ => rfl) Eq.trans step s).symm

end Couponry
