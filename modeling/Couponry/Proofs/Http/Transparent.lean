import Couponry.Proofs.Http.Exchange
import Couponry.Proofs.Ledger.Fits
import Couponry.Proofs.Purchase.Market

/-!
# The network does not show

The coupon component in the same process and behind a network that delivers everything answer alike
and do alike. A program of the service does the same within a handler as by itself; what the handler
is given is what the client was given, and what the client returns is what the service returned.
-/

namespace Couponry

open Couponry.Text Couponry.Http

namespace Program

variable {S T U : Signature} {α : Type}

/-- To end with what a program ends with is to be that program. -/
theorem bind_done (p : Program S α) : p.bind .done = p := by
  induction p with
  | done a => rfl
  | ask c next ih => exact congrArg (Program.ask c) (funext ih)

/-- Answering calls by programs whose calls are answered by programs. -/
theorem via_via (p : Program S α) (g : (c : S.Call) → Program T (S.Answer c))
    (h : (c : T.Call) → Program U (T.Answer c)) :
    (p.via g).via h = p.via fun c => (g c).via h := by
  induction p with
  | done a => rfl
  | ask c next ih =>
    show (g c >>= fun answer => (next answer).via g).via h = _
    rw [via_bind]
    simp only [ih]
    rfl

end Program

namespace Deployment

variable {α : Type} (host : HostAnswers) (s : Stores)

/-- A program of the service only touches the ledger. -/
theorem run_service (p : CouponProgram α) : (service p).run (Stores.serve host) s =
    ((Ledger.perform host p s.ledger).1,
      { s with ledger := (Ledger.perform host p s.ledger).2 }) := by
  unfold service
  induction p generalizing s with
  | done a => rfl
  | ask c next ih =>
    cases c with
    | store c => exact ih (Ledger.answer c s.ledger).1 _
    | host c => exact ih (host c) s

/-- Within a handler, a program of the service is what it is by itself. -/
theorem via_service (wiring : Wiring) (p : CouponProgram α) :
    (Api.service p).via (ofApi wiring) = service p := by
  refine (Program.via_via (T := ApiCalls) (U := SystemCalls) p Api.ofCoupon (ofApi wiring)).trans ?_
  refine congrArg (fun g => Program.via g p) (funext fun c => ?_)
  cases c <;> rfl

/-- Within a handler, a program of the saga is what it is by itself. -/
theorem via_saga (wiring : Wiring) (p : SagaProgram α) :
    (Api.saga p).via (ofApi wiring) = p.via (ofSaga wiring) := by
  refine (Program.via_via (T := ApiCalls) (U := SystemCalls) p Api.ofSaga (ofApi wiring)).trans ?_
  refine congrArg (fun g => Program.via g p) (funext fun c => ?_)
  cases c with
  | products c => rfl
  | coupons c => exact Program.bind_done (wiring c)
  | host c => rfl

/-- The response is that of the route, as it is sent. -/
theorem run_respond_eq {σ : Type} (wiring : Wiring) (h : (c : SystemCall) → σ → SystemCalls.Answer c × σ)
    (r : Request) (s : σ) :
    (respond wiring r).run h s =
      (Router.sent r (((Router.dispatch r (Route.ofPath r.path)).via (ofApi wiring)).run h s).1,
        (((Router.dispatch r (Route.ofPath r.path)).via (ofApi wiring)).run h s).2) :=
  Program.run_via_bind (S := ApiCalls) (T := SystemCalls) (ofApi wiring) h
    (Router.dispatch r (Route.ofPath r.path)) (fun response => Pure.pure (Router.sent r response)) s

/-- A failure that is told leaves no trace in the stores. -/
theorem run_fail (wiring : Wiring) (e : ApiError) :
    ((Api.fail e).via (ofApi wiring)).run (Stores.serve host) s = (e.response, s) := by
  unfold Api.fail
  split <;> rfl

/-- The response to the outcome of a program of the service. -/
def told (success : α → Response) : Except CouponError α → Response
  | .ok a => success a
  | .error e => (ApiError.coupon e).response

/-- The handler's part after a program of the service. -/
def tell (success : α → Response) : Except CouponError α → ApiProgram Response
  | .ok a => return success a
  | .error e => Api.fail (.coupon e)

/-- A handler that runs a program of the service and tells the outcome. -/
theorem run_tell (wiring : Wiring) (p : CouponProgram (Except CouponError α))
    (success : α → Response) :
    ((Api.service p >>= tell success).via (ofApi wiring)).run (Stores.serve host) s =
      (told success (Ledger.perform host p s.ledger).1,
        { s with ledger := (Ledger.perform host p s.ledger).2 }) := by
  have split : (Api.service p >>= tell success).via (ofApi wiring) =
      service p >>= fun out => (tell success out).via (ofApi wiring) := by
    refine (Program.via_bind (S := ApiCalls) (T := SystemCalls) (ofApi wiring) _ _).trans ?_
    exact congrArg (· >>= _) (via_service wiring p)
  have run : (service p >>= fun out => (tell success out).via (ofApi wiring)).run (Stores.serve host) s =
      ((tell success (Ledger.perform host p s.ledger).1).via (ofApi wiring)).run (Stores.serve host)
        { s with ledger := (Ledger.perform host p s.ledger).2 } := by
    refine (Program.run_bind (S := SystemCalls) (Stores.serve host) _ _ s).trans ?_
    rw [run_service]
  rw [split, run]
  cases (Ledger.perform host p s.ledger).1 with
  | ok a => rfl
  | error e => exact run_fail host _ wiring _

/-- The API answers a request as its handler tells. -/
theorem run_respond {r : Request} {p : CouponProgram (Except CouponError α)} {success : α → Response}
    (goes : Router.dispatch r (Route.ofPath r.path) = Api.service p >>= tell success) :
    (respond inProcess r).run (Stores.serve host) s =
      (Router.sent r (told success (Ledger.perform host p s.ledger).1),
        { s with ledger := (Ledger.perform host p s.ledger).2 }) := by
  rw [run_respond_eq, goes, run_tell]

/-- A request reaches the second process, and its response comes back. -/
theorem run_secondApi (r : Request) : (secondApi r).run (Stores.serve host) s =
    (.ok ((respond inProcess r).run (Stores.serve host) s).1,
      ((respond inProcess r).run (Stores.serve host) s).2) :=
  Program.run_bind (S := SystemCalls) (Stores.serve host) _ _ s

/-- What a client makes of the answer of the network. -/
def received (result : Response → Except ClientError α) :
    Except TransportError Response → Except ClientError α
  | .ok response => result response
  | .error e => .error (.internal e.message)

/-- An exchange with the second process says what its response says. -/
theorem run_exchange (r : Request) (result : Response → Except ClientError α) :
    ((Client.exchange r result).via secondApi).run (Stores.serve host) s =
      (result ((respond inProcess r).run (Stores.serve host) s).1,
        ((respond inProcess r).run (Stores.serve host) s).2) := by
  have split : (Client.exchange r result).via secondApi = secondApi r >>= fun answer =>
      Pure.pure (received result answer) := by
    refine congrArg (Program.bind (secondApi r)) (funext fun answer => ?_)
    cases answer <;> rfl
  rw [split]
  refine (Program.run_bind (S := SystemCalls) (Stores.serve host) _ _ s).trans ?_
  rw [run_secondApi]
  rfl

/-! ## The client in the same process -/

/-- What a caller is told of the outcome of a program of the service. -/
def heard {β : Type} (success : α → β) : Except CouponError α → Except ClientError β
  | .ok a => .ok (success a)
  | .error e => .error (.ofCoupon e)

theorem run_inProcess_check (code : String) (request : EligibilityRequest) :
    (inProcess (.check code request)).run (Stores.serve host) s =
      (heard id (Ledger.perform host (Service.retrieveCoupon code request) s.ledger).1,
        { s with
          ledger := (Ledger.perform host (Service.retrieveCoupon code request) s.ledger).2 }) := by
  refine (run_service host s _).trans ?_
  rw [localClient, Ledger.perform_bind]
  cases (Ledger.perform host (Service.retrieveCoupon code request) s.ledger).1 <;> rfl

theorem run_inProcess_redeem (caller : Identity) (code : String) (productId : Option ProductId) :
    (inProcess (.redeem caller code productId)).run (Stores.serve host) s =
      (heard (fun _ => ()) (Ledger.perform host (Service.applyCoupon caller code productId) s.ledger).1,
        { s with
          ledger :=
            (Ledger.perform host (Service.applyCoupon caller code productId) s.ledger).2 }) := by
  refine (run_service host s _).trans ?_
  rw [localClient, Ledger.perform_bind]
  cases (Ledger.perform host (Service.applyCoupon caller code productId) s.ledger).1 <;> rfl

end Deployment

/-! ## Both calls -/

/-- The code can be carried by a segment that addresses its coupon, and all numbers fit. -/
def ClientCall.Sendable : ClientCall → Prop
  | .check code request =>
    Client.isMalformed code = false ∧ Url.Steady code ∧ code ≠ "used" ∧ request.Fits
  | .redeem caller code productId =>
    Client.isMalformed code = false ∧ Url.Steady code ∧ fitsInt64 caller.userId.value = true ∧
      ∀ id ∈ productId, fitsInt64 id.value = true

namespace Deployment

section Dispatch

variable {base : Url} (bare : base.Bare) {code : String} (taken : Client.isMalformed code = false)
  (steady : Url.Steady code)
include bare taken steady

/-- A check that is sent is dispatched to the service as it was asked. -/
theorem dispatch_checkRequest (history : code ≠ "used") {request : EligibilityRequest}
    (fits : request.Fits) (plain : base.query = none) :
    Router.dispatch (Client.checkRequest base code request)
        (Route.ofPath (Client.checkRequest base code request).path) =
      Api.service (Service.retrieveCoupon code request) >>=
        tell fun view => .json 200 (Wire.write view) := by
  obtain ⟨segment, -, goes, param⟩ :=
    (Client.looksUp_iff bare taken request).2 ⟨steady, history⟩
  have query := Router.query_checkRequest bare plain code request
  rw [goes, Router.retrieveCoupon, param, query]
  simp only [Router.given, Router.lookupQuery_question fits]
  refine congrArg (Program.bind (Api.service (Service.retrieveCoupon code request)))
    (funext fun out => ?_)
  cases out <;> rfl

/-- A redemption that is sent is dispatched to the service as it was asked. -/
theorem dispatch_redeemRequest {caller : Identity} (user : fitsInt64 caller.userId.value = true)
    {productId : Option ProductId} (product : ∀ id ∈ productId, fitsInt64 id.value = true) :
    Router.dispatch (Client.redeemRequest base caller code productId)
        (Route.ofPath (Client.redeemRequest base caller code productId).path) =
      Api.service (Service.applyCoupon caller code productId) >>= tell fun _ => .empty 204 := by
  obtain ⟨segment, -, goes, param⟩ := (Client.applies_iff bare taken caller productId).2 steady
  have named : Caller.ofHeaders (Client.redeemRequest base caller code productId).headers =
      .ok caller := Caller.ofHeaders_headers user _
  rw [goes, Router.applyCoupon, Router.withCaller, named, param, Router.body_redeemRequest product]
  refine congrArg (Program.bind (Api.service (Service.applyCoupon caller code productId)))
    (funext fun out => ?_)
  cases out <;> rfl

end Dispatch

/-- What the client makes of the response to a check. -/
theorem checkResult_told (unread : Response → Option String) {r : Request} (read : r.method ≠ "HEAD")
    (outcome : Except CouponError CouponView) (fits : ∀ view, outcome = .ok view → view.Fits) :
    Client.checkResult unread (Router.sent r (told (fun view => .json 200 (Wire.write view)) outcome)) =
      heard id outcome := by
  cases outcome with
  | ok view => exact Client.checkResult_sent unread read (fits view rfl)
  | error e =>
    obtain ⟨failed, failure⟩ := Client.failure_sent read (.coupon e)
    rw [told, Client.checkResult, failed, failure]
    rfl

/-- What the client makes of the response to a redemption. -/
theorem redeemResult_told {r : Request} (read : r.method ≠ "HEAD")
    (outcome : Except CouponError RedemptionRecord) :
    Client.redeemResult (Router.sent r (told (fun _ => .empty 204) outcome)) =
      heard (fun _ => ()) outcome := by
  cases outcome with
  | ok record => rfl
  | error e =>
    obtain ⟨failed, failure⟩ := Client.failure_sent read (.coupon e)
    rw [told, Client.redeemResult, failed, failure]
    rfl

/-- **The network does not show.** On stores that requests to the service lead to, a call to the
coupon component returns the same and leaves the same stores, whether the component is in the same
process or behind a network that delivers every request and every response. What the library would say
of a response that cannot be read is never heard. -/
theorem behind_secondApi {base : Url} (bare : base.Bare) (plain : base.query = none)
    (unread : Response → Option String) {s : Stores} (served : s.ledger.Served) (host : HostAnswers)
    {c : ClientCall} (sendable : c.Sendable) :
    (behind secondApi base unread c).run (Stores.serve host) s =
      (inProcess c).run (Stores.serve host) s := by
  cases c with
  | check code request =>
    obtain ⟨taken, steady, history, fits⟩ := sendable
    have goes := dispatch_checkRequest bare taken steady history fits plain
    have read : (Client.checkRequest base code request).method ≠ "HEAD" := by
      show "GET" ≠ "HEAD"
      decide
    have sent : behind secondApi base unread (.check code request) = (Client.exchange
        (Client.checkRequest base code request) (Client.checkResult unread)).via secondApi := by
      rw [behind, Client.answer, taken]
      rfl
    have arrives := checkResult_told unread read
      (Ledger.perform host (Service.retrieveCoupon code request) s.ledger).1
      fun view shown => served.view host request shown
    have answered := run_exchange host s (Client.checkRequest base code request)
      (Client.checkResult unread)
    rw [run_respond host s goes, arrives] at answered
    rw [sent]
    exact answered.trans (run_inProcess_check host s code request).symm
  | redeem caller code productId =>
    obtain ⟨taken, steady, user, product⟩ := sendable
    have goes := dispatch_redeemRequest bare taken steady user product
    have read : (Client.redeemRequest base caller code productId).method ≠ "HEAD" := by
      show "POST" ≠ "HEAD"
      decide
    have sent : behind secondApi base unread (.redeem caller code productId) = (Client.exchange
        (Client.redeemRequest base caller code productId) Client.redeemResult).via secondApi := by
      rw [behind, Client.answer, taken]
      rfl
    have arrives := redeemResult_told read
      (Ledger.perform host (Service.applyCoupon caller code productId) s.ledger).1
    have answered := run_exchange host s (Client.redeemRequest base caller code productId)
      Client.redeemResult
    rw [run_respond host s goes, arrives] at answered
    rw [sent]
    exact answered.trans (run_inProcess_redeem host s caller code productId).symm

/-- The last use of a coupon whose code is full of reserved characters is taken from afar as from
nearby. -/
theorem behind_secondApi_reserved :
    let coupon := { Ledger.single with code := "ÄB/../50%?a#b" }
    let s : Stores := ⟨(Ledger.answer (.createCoupon coupon) .empty).2, .empty⟩
    let call : ClientCall := .redeem ⟨⟨5⟩, .user⟩ coupon.code (some ⟨1⟩)
    let host := HostAnswers.stopped ⟨5, 0⟩
    let unread := fun _ : Response => some "error decoding response body"
    Url.Bare ⟨[[]], none⟩ ∧ s.ledger.Served ∧ call.Sendable ∧
      (inProcess call).run (Stores.serve host) s =
        (behind secondApi ⟨[[]], none⟩ unread call).run (Stores.serve host) s := by
  intro coupon s call host unread
  have bare : Url.Bare ⟨[[]], none⟩ := .inr rfl
  have fits : coupon.Fits :=
    ⟨by show (50 : Nat) < 2 ^ 32; decide, ⟨by decide, by decide⟩, ⟨by decide, by decide⟩, by decide⟩
  have served : s.ledger.Served := .call .empty (.createCoupon coupon) fits
  have sendable : call.Sendable := by
    refine ⟨by decide, ?_, by decide, ?_⟩
    · decide
    · rintro id ⟨⟩
      decide
  exact ⟨bare, served, sendable, (behind_secondApi bare rfl unread served host sendable).symm⟩

end Deployment

end Couponry
