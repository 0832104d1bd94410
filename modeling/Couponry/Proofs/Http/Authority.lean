import Couponry.Proofs.Http.Caller
import Couponry.Proofs.Http.Path
import Couponry.Proofs.Http.Transparent
import Couponry.Proofs.Network.Quiet
import Couponry.Proofs.Purchase.Own

/-!
# Who may change what

The stores change only by requests of callers who may change them. `Handled` lists what a request can have
done to the stores, each case with what was asked and who asked; every handler is shown to do one of these,
and `guarded` reads off what a change says of the request that made it. Handlers for which a caller is needed
take the caller before anything else, so without one they do nothing, whatever the path and the body are.
-/

namespace Couponry

open Couponry.Http Couponry.Program

/-! ## What is asked -/

namespace Http.Request

variable (r : Request)

/-- The request asks to create or to delete a coupon. -/
def Administers : Prop :=
  (r.method = "POST" ∧ r.path = "/coupons".toList) ∨
    (r.method = "DELETE" ∧ ∃ id, r.path = "/coupons/".toList ++ id ∧ '/' ∉ id ∧ id ≠ [] ∧ id ≠ "used".toList)

/-- The request asks to add a product. -/
def Stocks : Prop :=
  r.method = "POST" ∧ r.path = "/products".toList

/-- The request asks to apply a coupon. -/
def Applies : Prop :=
  r.method = "POST" ∧ ∃ code, r.path = "/coupons/".toList ++ code ++ "/apply".toList ∧ '/' ∉ code

/-- The request asks to buy a product. -/
def Buys : Prop :=
  r.method = "POST" ∧ ∃ id, r.path = "/products/".toList ++ id ++ "/purchase".toList ∧ '/' ∉ id

/-- The request asks for the history of the caller. -/
def Recalls : Prop :=
  r.Reads ∧ r.path = "/coupons/used".toList

/-- What the request asks for is done for a caller. -/
def NeedsCaller : Prop :=
  r.Administers ∨ r.Stocks ∨ r.Applies ∨ r.Buys ∨ r.Recalls

variable {r}

theorem reads_iff : r.Reads ↔ r.method ∈ ["GET", "HEAD"] := by
  rw [Reads, List.mem_cons, List.mem_singleton]

end Http.Request

/-! ## What is done -/

/-- What a request has done to the stores, and by what authority. -/
inductive Handled (r : Request) (s : Stores) : Stores → Prop where
  | nothing : Handled r s s
  | administered {s' : Stores} {caller : Identity} (asked : r.Administers)
      (named : Caller.Named r.headers caller) (admin : caller.isAdmin = true)
      (catalog : s'.catalog = s.catalog) (redemptions : s'.ledger.redemptions = s.ledger.redemptions) :
      Handled r s s'
  | stocked {s' : Stores} {caller : Identity} (asked : r.Stocks) (named : Caller.Named r.headers caller)
      (admin : caller.isAdmin = true) (ledger : s'.ledger = s.ledger)
      (purchases : s'.catalog.purchases = s.catalog.purchases) : Handled r s s'
  | applied {s' : Stores} {caller : Identity} (asked : r.Applies) (named : Caller.Named r.headers caller)
      (used : UsedBy caller.userId s s') (catalog : s'.catalog = s.catalog) : Handled r s s'
  | bought {s' : Stores} {caller : Identity} (asked : r.Buys) (named : Caller.Named r.headers caller)
      (used : UsedBy caller.userId s s') : Handled r s s'

/-- Whatever stores it finds, what the program of a handler does to them is done by this request. -/
def Handles {α : Type} (r : Request) (p : ApiProgram α) : Prop :=
  ∀ s script,
    Handled r s ((p.via (Deployment.ofApi Deployment.inProcess)).run Stores.attend (s, script)).2.1

namespace Handles

variable {α β : Type} {r : Request}

theorem of_quiet {p : ApiProgram α} (quiet : p.Only ApiCall.Quiet) : Handles r p := by
  intro s script
  rw [Stores.run_of_quiet (quiet_ofApi quiet _)]
  exact .nothing

/-- What comes after may only read. -/
theorem bind {p : ApiProgram α} {next : α → ApiProgram β} (first : Handles r p)
    (rest : ∀ a, (next a).Only ApiCall.Quiet) : Handles r (p >>= next) := by
  intro s script
  have split := run_via_bind (T := SystemCalls) (Deployment.ofApi Deployment.inProcess) Stores.attend p next
    (s, script)
  rw [split, Stores.run_of_quiet (quiet_ofApi (rest _) _)]
  exact first s script

theorem given {taken : Except Response α} {next : α → ApiProgram Response}
    (handles : ∀ a, Handles r (next a)) : Handles r (Router.given taken next) := by
  cases taken with
  | error response => exact of_quiet (p := Router.given (.error response) next) trivial
  | ok a => exact handles a

theorem withCaller {next : Identity → ApiProgram Response}
    (handles : ∀ caller, Caller.Named r.headers caller → Handles r (next caller)) :
    Handles r (Router.withCaller r next) := by
  unfold Router.withCaller
  split
  · next caller read => exact handles caller (Caller.named_of_ofHeaders read)
  · exact of_quiet (quiet_fail _)

/-- A program of the service does what each of its calls does. -/
theorem service {P : CouponCall → Prop} {R : Stores → Stores → Prop} {p : CouponProgram α} (only : p.Only P)
    (refl : ∀ s, R s s) (trans : ∀ {s s' s''}, R s s' → R s' s'' → R s s'')
    (step : ∀ c s, P (.store c) → R s { s with ledger := (Ledger.answer c s.ledger).2 })
    (handled : ∀ {s s'}, R s s' → Handled r s s') : Handles r (Api.service p) := by
  have calls : (Deployment.service p).Only fun c => ∀ s host, R s (s.serve host c).2 := by
    refine only.via fun c allowed => ?_
    cases c with
    | store c => exact ⟨fun s _ => step c s allowed, fun _ => trivial⟩
    | host c => exact ⟨fun s _ => refl s, fun _ => trivial⟩
  intro s script
  rw [Deployment.via_service]
  exact handled (calls.run (R := fun s s' : Stores × HostScript => R s.1 s'.1) (fun s => refl s.1) trans
    (fun c s changes => changes s.1 (s.2 0)) (s, script))

end Handles

/-! ### The handlers -/

section Handlers

variable {r : Request}

/-- An admin who creates or deletes leaves the history as it is. -/
theorem Handles.administer {α : Type} {P : CouponCall → Prop} {p : CouponProgram α} {caller : Identity}
    (asked : r.Administers) (named : Caller.Named r.headers caller) (admin : caller.isAdmin = true)
    (only : p.Only P) (spared : ∀ c l, P (.store c) → (Ledger.answer c l).2.redemptions = l.redemptions) :
    Handles r (Api.service p) := by
  refine .service (R := fun s s' => s'.catalog = s.catalog ∧ s'.ledger.redemptions = s.ledger.redemptions)
    only (fun _ => ⟨rfl, rfl⟩) (fun first second => ?_) (fun c s allowed => ⟨rfl, spared c s.ledger allowed⟩)
    fun kept => .administered asked named admin kept.1 kept.2
  exact ⟨second.1.trans first.1, second.2.trans first.2⟩

theorem handles_createCoupon (asked : r.Administers) : Handles r (Router.createCoupon r) := by
  refine .withCaller fun caller named => .given fun request => ?_
  cases admin : caller.isAdmin with
  | false =>
    rw [createCoupon_of_not_isAdmin admin]
    exact .of_quiet (quiet_fail (.coupon Service.notAdmin))
  | true =>
    refine (Handles.administer asked named admin (creates_createCoupon caller request) ?_).bind fun out => ?_
    · rintro _ l ⟨code, now, rfl⟩
      exact Ledger.redemptions_createCoupon l _
    · cases out with
      | error e => exact quiet_fail _
      | ok created => trivial

theorem handles_deleteCoupon (asked : r.Administers) (segment : List Char) :
    Handles r (Router.deleteCoupon r segment) := by
  refine .withCaller fun caller named => .given fun id => ?_
  cases admin : caller.isAdmin with
  | false =>
    rw [deleteCoupon_of_not_isAdmin admin]
    exact .of_quiet (quiet_fail (.coupon Service.notAdmin))
  | true =>
    refine (Handles.administer asked named admin (deletes_deleteCoupon caller ⟨id⟩) ?_).bind fun out => ?_
    · rintro _ l rfl
      exact Ledger.redemptions_deleteCoupon l _
    · cases out with
      | error e => exact quiet_fail _
      | ok _ => trivial

theorem handles_applyCoupon (asked : r.Applies) (segment : List Char) :
    Handles r (Router.applyCoupon r segment) := by
  refine .withCaller fun caller named => .given fun code => .given fun productId => ?_
  refine (Handles.service (R := fun s s' => UsedBy caller.userId s s' ∧ s'.catalog = s.catalog)
    (redeems_applyCoupon caller code productId) (fun s => ⟨.refl _ s, rfl⟩) ?_ ?_
    fun used => .applied asked named used.1 used.2).bind fun out => ?_
  · exact fun first second => ⟨first.1.trans second.1, second.2.trans first.2⟩
  · rintro c s (reads | ⟨coupon, productId, time, rfl⟩)
    · have kept := Stores.serve_of_quiet (c := .store c) reads s (HostAnswers.stopped ⟨0, 0⟩)
      rw [show { s with ledger := (Ledger.answer c s.ledger).2 } = s from kept]
      exact ⟨.refl _ s, rfl⟩
    · exact ⟨.redeem s coupon caller.userId productId time, rfl⟩
  · cases out with
    | error e => exact quiet_fail _
    | ok r => trivial

theorem handles_createProduct (asked : r.Stocks) : Handles r (Router.createProduct r) := by
  refine .withCaller fun caller named => .given fun p => ?_
  cases admin : caller.isAdmin with
  | false => exact .of_quiet (quiet_fail (.permissionDenied "user doesn't have permission"))
  | true =>
    simp only [Bool.not_true, Bool.false_eq_true, if_false]
    split
    · exact .of_quiet (quiet_fail _)
    · exact fun s script => .stocked asked named admin rfl rfl

theorem handles_purchase (asked : r.Buys) (segment : List Char) :
    Handles r (Router.purchase r segment) := by
  refine .withCaller fun caller named => .given fun id => .given fun coupon => ?_
  refine Handles.bind (fun s script => ?_) fun out => ?_
  · rw [Deployment.via_saga]
    exact .bought asked named (usedBy_purchase ⟨caller, ⟨id⟩, Router.givenCode coupon⟩ s script)
  · cases out with
    | error e => exact quiet_fail _
    | ok record => trivial

/-- A request whose method a route has goes to the handler of the route. -/
theorem dispatch_of_has {route : Route} (found : Route.ofPath r.path = some route)
    (has : r.method ∈ route.methods) :
    Router.dispatch r (Route.ofPath r.path) = Router.handle r r.method route := by
  rw [found, Router.dispatch, if_pos (List.contains_iff_mem.2 has)]

/-- Every handler does what its requests may do. -/
theorem handles_handle {route : Route} (found : Route.ofPath r.path = some route)
    (has : r.method ∈ route.methods) : Handles r (Router.handle r r.method route) := by
  obtain ⟨path, proper⟩ := Route.eq_path_of_ofPath found
  by_cases reads : r.Reads
  · exact .of_quiet (quiet_handle r reads route (List.contains_iff_mem.2 has))
  · cases route with
    | health | metrics | used => exact absurd (Request.reads_iff.2 has) reads
    | coupons => exact handles_createCoupon (.inl ⟨List.mem_singleton.1 has, path⟩)
    | coupon segment =>
      by_cases deletes : r.method = "DELETE"
      · rw [Router.handle, if_pos deletes]
        exact handles_deleteCoupon (.inr ⟨deletes, segment, path, proper⟩) segment
      · have other : r.method ∈ ["GET", "HEAD"] := by simpa [Route.methods, deletes] using has
        exact absurd (Request.reads_iff.2 other) reads
    | apply segment => exact handles_applyCoupon ⟨List.mem_singleton.1 has, segment, path, proper⟩ segment
    | products => exact handles_createProduct ⟨List.mem_singleton.1 has, path⟩
    | purchase segment => exact handles_purchase ⟨List.mem_singleton.1 has, segment, path, proper⟩ segment

theorem handles_dispatch (r : Request) : Handles r (Router.dispatch r (Route.ofPath r.path)) := by
  cases path : Route.ofPath r.path with
  | none => exact .of_quiet trivial
  | some route =>
    by_cases has : r.method ∈ route.methods
    · rw [← path, dispatch_of_has path has]
      exact handles_handle path has
    · have refused : (Router.dispatch r (some route)).Only ApiCall.Quiet := by
        rw [Router.dispatch, if_neg fun own => has (List.contains_iff_mem.1 own)]
        split <;> trivial
      exact .of_quiet refused

end Handlers

/-! ### Without a caller -/

section Unnamed

variable {r : Request}

/-- Whatever is done for a caller begins with the caller. -/
theorem dispatch_of_needsCaller (needs : r.NeedsCaller) :
    ∃ next, Router.dispatch r (Route.ofPath r.path) = Router.withCaller r next := by
  have goes : ∀ route : Route, r.path = route.path → route.Proper → r.method ∈ route.methods →
      Router.dispatch r (Route.ofPath r.path) = Router.handle r r.method route := fun _ path proper has =>
    dispatch_of_has (Route.ofPath_eq_some_iff.2 ⟨path, proper⟩) has
  rcases needs with (⟨post, path⟩ | ⟨delete, id, path, proper⟩) | ⟨post, path⟩ | ⟨post, code, path, proper⟩ |
    ⟨post, id, path, proper⟩ | ⟨reads, path⟩
  · exact ⟨_, goes .coupons path trivial (by simp [Route.methods, post])⟩
  · rw [goes (.coupon id) path proper (by simp [Route.methods, delete]), Router.handle, if_pos delete]
    exact ⟨_, rfl⟩
  · exact ⟨_, goes .products path trivial (by simp [Route.methods, post])⟩
  · exact ⟨_, goes (.apply code) path proper (by simp [Route.methods, post])⟩
  · exact ⟨_, goes (.purchase id) path proper (by simp [Route.methods, post])⟩
  · exact ⟨_, goes .used path trivial (Request.reads_iff.1 reads)⟩

/-- Nobody is told that the permission is missing. -/
theorem dispatch_of_unnamed (needs : r.NeedsCaller) (unnamed : Caller.Unnamed r.headers) :
    ∃ why, Router.dispatch r (Route.ofPath r.path) = return (ApiError.permissionDenied why).response := by
  obtain ⟨next, goes⟩ := dispatch_of_needsCaller needs
  obtain ⟨why, refused⟩ := Caller.ofHeaders_of_unnamed unnamed
  refine ⟨why, ?_⟩
  rw [goes, Router.withCaller, refused]
  rfl

end Unnamed

/-! ## Requests -/

/-- The headers name an admin. -/
def ByAdmin (r : Request) : Prop :=
  ∃ caller, Caller.Named r.headers caller ∧ (caller.role = .admin ∨ caller.role = .superAdmin)

/-- The list has only been added to, and if so, by such a request and in the name of its caller. -/
def AddedBy {α : Type} (r : Request) (asked : Prop) (owner : α → UserId) (before after : List α) : Prop :=
  ∃ added, after = before ++ added ∧ (added ≠ [] →
    asked ∧ ∃ caller, Caller.Named r.headers caller ∧ ∀ a ∈ added, owner a = caller.userId)

/-- The body of a refusal. -/
def refusal (why : String) : Json :=
  .object [("error", .text why), ("kind", .text "permission_denied")]

/-- A request that needs a caller is told that it is forbidden, and why. The answer to `HEAD` has no body. -/
structure Refused (r : Request) (why : String) (response : Response) : Prop where
  status : response.status = 403
  json : ("content-type", "application/json") ∈ response.headers
  body : r.method ≠ "HEAD" → response.body = (refusal why).render
  sent : response = Router.sent r (.json 403 (refusal why))

/-- What a request may have done to the stores, and what it is answered where it names nobody. -/
structure Guarded (r : Request) (s s' : Stores) (response : Response) : Prop where
  coupons : ¬ s.ledger.SameTerms s'.ledger → r.Administers ∧ ByAdmin r
  products : s'.catalog.products ≠ s.catalog.products → r.Stocks ∧ ByAdmin r
  redemptions :
    AddedBy r (r.Applies ∨ r.Buys) RedemptionRecord.userId s.ledger.redemptions s'.ledger.redemptions
  purchases : AddedBy r r.Buys PurchaseRecord.userId s.catalog.purchases s'.catalog.purchases
  refused : r.NeedsCaller → Caller.Unnamed r.headers → s' = s ∧ ∃ why, Refused r why response
  reads : r.Reads → s' = s

section Reading

variable {r : Request} {α : Type} {asked : Prop} {owner : α → UserId} {before after : List α}

theorem byAdmin {caller : Identity} (named : Caller.Named r.headers caller) (admin : caller.isAdmin = true) :
    ByAdmin r :=
  ⟨caller, named, Identity.isAdmin_iff.1 admin⟩

theorem AddedBy.of_eq (same : after = before) : AddedBy r asked owner before after :=
  ⟨[], by rw [same, List.append_nil], fun some => absurd rfl some⟩

theorem AddedBy.of_grown (question : asked) {caller : Identity} (named : Caller.Named r.headers caller)
    (grown : GrownBy owner caller.userId before after) : AddedBy r asked owner before after := by
  obtain ⟨added, same, own⟩ := grown
  exact ⟨added, same, fun _ => ⟨question, caller, named, own⟩⟩

theorem refused_sent (r : Request) (why : String) :
    Refused r why (Router.sent r (.json 403 (refusal why))) where
  status := rfl
  json := List.mem_cons_self
  body other := if_neg other
  sent := rfl

end Reading

namespace Handled

variable {r : Request} {s s' : Stores}

theorem coupons (h : Handled r s s') (changed : ¬ s.ledger.SameTerms s'.ledger) :
    r.Administers ∧ ByAdmin r := by
  cases h with
  | nothing => exact absurd (.refl _) changed
  | administered asked named admin => exact ⟨asked, byAdmin named admin⟩
  | stocked _ _ _ ledger => exact absurd (ledger ▸ .refl _) changed
  | applied _ _ used => exact absurd used.terms changed
  | bought _ _ used => exact absurd used.terms changed

theorem products (h : Handled r s s') (changed : s'.catalog.products ≠ s.catalog.products) :
    r.Stocks ∧ ByAdmin r := by
  cases h with
  | nothing => exact absurd rfl changed
  | administered _ _ _ catalog => exact absurd (congrArg Catalog.products catalog) changed
  | stocked asked named admin => exact ⟨asked, byAdmin named admin⟩
  | applied _ _ used => exact absurd used.products changed
  | bought _ _ used => exact absurd used.products changed

theorem redemptions (h : Handled r s s') :
    AddedBy r (r.Applies ∨ r.Buys) RedemptionRecord.userId s.ledger.redemptions s'.ledger.redemptions := by
  cases h with
  | nothing => exact .of_eq rfl
  | administered _ _ _ _ redemptions => exact .of_eq redemptions
  | stocked _ _ _ ledger => exact .of_eq (congrArg Ledger.redemptions ledger)
  | applied asked named used => exact .of_grown (.inl asked) named used.redemptions
  | bought asked named used => exact .of_grown (.inr asked) named used.redemptions

theorem purchases (h : Handled r s s') :
    AddedBy r r.Buys PurchaseRecord.userId s.catalog.purchases s'.catalog.purchases := by
  cases h with
  | nothing => exact .of_eq rfl
  | administered _ _ _ catalog => exact .of_eq (congrArg Catalog.purchases catalog)
  | stocked _ _ _ _ purchases => exact .of_eq purchases
  | applied _ _ _ catalog => exact .of_eq (congrArg Catalog.purchases catalog)
  | bought asked named used => exact .of_grown asked named used.purchases

end Handled

namespace Deployment

/-- Whatever an answer has done to the stores is done by its request. -/
theorem handled_respond (r : Request) (s : Stores) (script : HostScript) :
    Handled r s ((respond inProcess r).run Stores.attend (s, script)).2.1 := by
  rw [run_respond_eq]
  exact handles_dispatch r s script

/-- **Only requests of callers who may change the stores change them.** Whatever the stores are and whatever
the host answers, coupons and grants are changed by admins only, and so are products; redemptions and purchases
are only added, for the caller that the headers name; without such a caller nothing is done, and nothing is
ever done to answer `GET` or `HEAD`. -/
theorem guarded_respond (r : Request) (s : Stores) (script : HostScript) :
    let out := (respond inProcess r).run Stores.attend (s, script)
    Guarded r s out.2.1 out.1 := by
  intro out
  have handled : Handled r s out.2.1 := handled_respond r s script
  have refused : r.NeedsCaller → Caller.Unnamed r.headers → out.2.1 = s ∧ ∃ why, Refused r why out.1 := by
    intro needs unnamed
    obtain ⟨why, goes⟩ := dispatch_of_unnamed needs unnamed
    have told : out = _ := run_respond_eq inProcess Stores.attend r (s, script)
    rw [told, goes]
    exact ⟨rfl, why, refused_sent r why⟩
  exact ⟨handled.coupons, handled.products, handled.redemptions, handled.purchases, refused,
    fun reads => Stores.run_of_quiet (quiet_respond reads) (s, script)⟩

/-- The caller is taken before the body is read. -/
example :
    let r : Request := ⟨"POST", "/coupons/SUMMER/apply", [("x-user-id", "seven")], "no JSON"⟩
    ((respond inProcess r).run Stores.attend (⟨.empty, .empty⟩, fun _ => .stopped ⟨0, 0⟩)).1.status = 403 := by
  decide

end Deployment

end Couponry
