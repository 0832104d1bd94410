import Couponry.Proofs.Http.Base
import Couponry.Proofs.Http.Transparent
import Couponry.Proofs.Network.Quiet

/-!
# Redeeming over an unreliable network

A network that may lose a request before the router sees it, or the reply after the router has dealt
with it; the client sees the same failure both times. The router consumes a use exactly if it responds
with a success. So a redemption whose reply arrives is known to have happened or not, and one whose
reply is lost is not.
-/

namespace Couponry

open Couponry.Http Couponry.Program

/-- What becomes of a request and of the reply to it. -/
inductive Fate where
  | delivered
  /-- The router never sees the request. -/
  | requestLost (seen : TransportError)
  /-- The router has dealt with the request, and the client never sees the reply. -/
  | replyLost (seen : TransportError)
  deriving DecidableEq, Repr

/-- What becomes of the two requests that an attempt may send. -/
structure Fates where
  check : Fate
  redeem : Fate
  /-- What the library says of a response to the check that cannot be read. -/
  unread : Option String
  deriving DecidableEq, Repr

/-- What becomes of the request for a call. -/
def Fates.of (fates : Fates) : ClientCall → Fate
  | .check _ _ => fates.check
  | .redeem _ _ _ => fates.redeem

namespace Deployment

/-- A network to the API of a second process, with this fate for a request. -/
def lossy (fate : Fate) (r : Request) : SystemProgram (Except TransportError Response) :=
  match fate with
  | .delivered => secondApi r
  | .requestLost seen => return .error seen
  | .replyLost seen => do
    let _ ← secondApi r
    return .error seen

/-- The coupon component behind an unreliable network. -/
def unreliable (fates : Fates) (base : Url) : Wiring := fun c =>
  behind (lossy (fates.of c)) base (fun _ => fates.unread) c

end Deployment

open Deployment

namespace Tally

/-! ## The router -/

/-- The tally after an outcome. -/
def taken {ε α : Type} (x : Tally) : Except ε α → Tally
  | .error _ => x
  | .ok _ => x.redeem

/-- The router has responded, with a success exactly if a use is consumed. -/
def Responded (x y : Tally) (response : Response) : Prop :=
  y = if response.isSuccess then x.redeem else x

theorem Responded.failure {x : Tally} {response : Response} (failed : response.isSuccess = false) :
    Responded x x response := by
  rw [Responded, failed]
  rfl

theorem Responded.success {x : Tally} {response : Response} (success : response.isSuccess = true) :
    Responded x x.redeem response := by
  rw [Responded, success]
  rfl

/-- The steps of an attempt that the coupon component makes for it. -/
def CouponStep : Tally → (c : CouponCall) → CouponCalls.Answer c → Tally → Prop
  | x, .store c, answer, y => Step x (.store c) answer y
  | x, .host c, answer, y => Step x (.host c) answer y

section Service

variable {α β : Type} {x : Tally} {ends : Tally → β → Prop}

theorem follows_service {p : CouponProgram β} (follows : p.Follows CouponStep ends x) :
    (service p).Follows Step ends x := by
  induction p generalizing x with
  | done b => exact follows
  | ask c next ih =>
    cases c <;> intro answer <;> obtain ⟨y, go, rest⟩ := follows answer <;>
      exact ⟨y, go, ih answer rest⟩

/-- A quiet beginning can be passed over. -/
theorem follows_quietly {p : CouponProgram α} {f : α → CouponProgram β}
    (quiet : p.Only CouponCall.Quiet) (follows : ∀ a, (f a).Follows CouponStep ends x) :
    (p >>= f).Follows CouponStep ends x := by
  have stays : p.Follows CouponStep (fun y _ => y = x) x := by
    refine quiet.follows fun c answer allowed => ?_
    cases c with
    | store c => exact .quiet x (c := .store c) allowed answer
    | host c => exact .quiet x (c := .host c) allowed answer
  refine stays.bind ?_
  rintro y a rfl
  exact follows a

theorem follows_applyFound (c : Coupon) (caller : Identity) (code : String)
    (productId : Option ProductId) :
    (Service.applyFound c caller code productId).Follows CouponStep
      (fun y outcome => y = x.taken outcome) x := by
  unfold Service.applyFound
  refine follows_quietly ⟨nofun, fun _ => trivial⟩ fun now => ?_
  split
  · exact follows_quietly (quiet_count nofun) fun _ => rfl
  · have redeemed : (CouponProgram.store (.redeem c caller.userId productId now)).Follows CouponStep
        (fun y answer => y = x.taken answer) x := by
      rintro (e | r)
      · exact ⟨x, .refused x c _ _ _ e, rfl⟩
      · exact ⟨x.redeem, .redeems x c _ _ _ r, rfl⟩
    refine redeemed.bind ?_
    rintro y (e | r) rfl
    · exact follows_quietly (quiet_count nofun) fun _ => follows_quietly (quiet_log _) fun _ => rfl
    · exact follows_quietly (quiet_count nofun) fun _ => follows_quietly (quiet_log _) fun _ => rfl

/-- Applying a coupon consumes one use, or fails and consumes none. -/
theorem follows_applyCoupon (caller : Identity) (code : String) (productId : Option ProductId) :
    (Service.applyCoupon caller code productId).Follows CouponStep
      (fun y outcome => y = x.taken outcome) x := by
  refine follows_quietly (quiet_getByCode code) fun found => ?_
  cases found with
  | error e => exact rfl
  | ok c => exact follows_applyFound c caller code productId

end Service

section Router

variable {x : Tally} {r : Request}

/-- A failure is told quietly, and not as a success. -/
theorem follows_fail (wiring : Wiring) (e : ApiError) :
    ((Api.fail e).via (ofApi wiring)).Follows Step (Responded x) x := by
  have failed : e.response.isSuccess = false := by
    have status : e.response.status = e.kind.status := rfl
    rw [Response.isSuccess, status]
    cases e.kind <;> rfl
  unfold Api.fail
  split
  · have event : SystemCall.Quiet (.host (.note (.event (.requestFailed e.message)))) := by
      rintro ⟨⟩
    exact fun answer => ⟨x, .quiet x event answer, .failure failed⟩
  · exact Responded.failure failed

theorem status_textParam {segment : List Char} {response : Response}
    (refused : Router.textParam segment = .error response) : response.isSuccess = false := by
  unfold Router.textParam at refused
  split at refused
  · cases refused
  · cases refused
    rfl

theorem status_body {α : Type} {d : Json.Decoder α} {response : Response}
    (refused : Router.body d r = .error response) : response.isSuccess = false := by
  unfold Router.body at refused
  split at refused
  · split at refused <;> cases refused <;> rfl
  · cases refused
    rfl

/-- The handler consumes a use exactly if it responds with a success. -/
theorem follows_handler (segment : List Char) :
    ((Router.applyCoupon r segment).via (ofApi inProcess)).Follows Step (Responded x) x := by
  unfold Router.applyCoupon Router.withCaller
  split
  · next caller named =>
    cases param : Router.textParam segment with
    | error response => exact Responded.failure (status_textParam param)
    | ok code =>
      cases body : Router.body Router.applyBody r with
      | error response => exact Responded.failure (status_body body)
      | ok productId =>
        have applied : ((Api.service (Service.applyCoupon caller code productId)).via
            (ofApi inProcess)).Follows Step (fun y outcome => y = x.taken outcome) x := by
          rw [via_service]
          exact follows_service (follows_applyCoupon caller code productId)
        refine Follows.via_bind applied ?_
        rintro y (e | record) rfl
        · exact follows_fail inProcess _
        · exact Responded.success rfl
  · exact follows_fail inProcess _

/-- A request that is applied or refused consumes a use exactly if the response is a success. -/
theorem follows_respond
    (goes : (∃ segment, Router.dispatch r (Route.ofPath r.path) = Router.applyCoupon r segment) ∨
      ∃ response : Response, response.isSuccess = false ∧
        Router.dispatch r (Route.ofPath r.path) = return response) :
    (respond inProcess r).Follows Step (Responded x) x := by
  have dispatched : ((Router.dispatch r (Route.ofPath r.path)).via (ofApi inProcess)).Follows Step
      (Responded x) x := by
    rcases goes with ⟨segment, goes⟩ | ⟨response, failed, goes⟩
    · rw [goes]
      exact follows_handler segment
    · rw [goes]
      exact Responded.failure failed
  exact Follows.via_bind dispatched fun _ _ responded => responded

end Router

/-! ## The network -/

section Network

variable {x : Tally} {α : Type} {fate : Fate} {r : Request} {mid : Tally → Response → Prop}

/-- What a client makes of a request with this fate, if the router leads to `mid`. -/
def Exchanged (fate : Fate) (result : Response → Except ClientError α) (x : Tally)
    (mid : Tally → Response → Prop) (y : Tally) (outcome : Except ClientError α) : Prop :=
  match fate with
  | .delivered => ∃ response, outcome = result response ∧ mid y response
  | .requestLost seen => outcome = .error (.internal seen.message) ∧ y = x
  | .replyLost seen => outcome = .error (.internal seen.message) ∧ ∃ response, mid y response

/-- An exchange leads where the router leads, or nowhere, and the client knows which if the reply
arrives. -/
theorem follows_exchange (result : Response → Except ClientError α)
    (processed : (respond inProcess r).Follows Step mid x) :
    ((Client.exchange r result).via (lossy fate)).Follows Step (Exchanged fate result x mid) x := by
  have heard : (secondApi r).Follows Step
      (fun y answer => ∃ response, answer = .ok response ∧ mid y response) x :=
    Follows.bind processed fun y response went => ⟨response, rfl, went⟩
  cases fate with
  | delivered =>
    refine Follows.bind heard ?_
    rintro y _ ⟨response, rfl, went⟩
    exact ⟨response, rfl, went⟩
  | requestLost seen => exact ⟨rfl, rfl⟩
  | replyLost seen =>
    have unheard : (lossy (.replyLost seen) r).Follows Step
        (fun y answer => answer = .error seen ∧ ∃ response, mid y response) x :=
      heard.bind fun y _ ⟨response, _, went⟩ => ⟨rfl, response, went⟩
    refine Follows.bind unheard ?_
    rintro y _ ⟨rfl, went⟩
    exact ⟨rfl, went⟩

/-- A check over the network changes no tally. -/
theorem follows_check (fates : Fates) (base : Url) (code : String) (request : EligibilityRequest) :
    (unreliable fates base (.check code request)).Follows Step (fun y _ => y = x) x := by
  rw [unreliable, behind, Client.answer]
  split
  · exact rfl
  · have quiet := quiet_respond (r := Client.checkRequest base code request) (.inl rfl)
    generalize Client.checkRequest base code request = r at quiet ⊢
    refine (follows_exchange (Client.checkResult _) (follows_of_quiet quiet x)).mono ?_
    intro y outcome exchanged
    unfold Exchanged at exchanged
    split at exchanged
    · exact exchanged.choose_spec.2
    · exact exchanged.2
    · exact exchanged.2.choose_spec

/-- What a redemption with this fate has come to: if no reply arrives, the client cannot know. -/
def Redeemed (fate : Fate) (x y : Tally) : Except ClientError Unit → Prop
  | .ok () => fate = .delivered ∧ y = x.redeem
  | .error e => y = x ∨ y = x.redeem ∧ ∃ seen, fate = .replyLost seen ∧ e = .internal seen.message

theorem redeemed_exchanged {y : Tally} {outcome : Except ClientError Unit}
    (exchanged : Exchanged fate Client.redeemResult x (Responded x) y outcome) :
    Redeemed fate x y outcome := by
  unfold Exchanged at exchanged
  split at exchanged
  · obtain ⟨response, rfl, rfl⟩ := exchanged
    cases success : response.isSuccess with
    | true =>
      simp only [Client.redeemResult, success]
      exact ⟨rfl, rfl⟩
    | false =>
      simp only [Client.redeemResult, success]
      exact .inl rfl
  · obtain ⟨rfl, rfl⟩ := exchanged
    exact .inl rfl
  · next seen =>
    obtain ⟨rfl, response, rfl⟩ := exchanged
    cases response.isSuccess with
    | true => exact .inr ⟨rfl, seen, rfl, rfl⟩
    | false => exact .inl rfl

/-- **A redemption over the network** happens if the client hears that it did; if it hears of a
failure, it happened only if the reply was lost, and then it hears no more than that. -/
theorem follows_redemption (fates : Fates) {base : Url} (split : base.Sealed) (caller : Identity)
    (code : String) (productId : Option ProductId) :
    (unreliable fates base (.redeem caller code productId)).Follows Step
      (Redeemed fates.redeem x) x := by
  rw [unreliable, behind, Client.answer]
  split
  · exact .inl rfl
  · have goes := Client.dispatch_redeem split caller code productId
    generalize Client.redeemRequest base caller code productId = r at goes ⊢
    have processed := follows_respond (x := x) goes
    exact (follows_exchange Client.redeemResult processed).mono fun _ _ => redeemed_exchanged

end Network

end Tally

end Couponry
