import Couponry.Proofs.Coupon.Run
import Couponry.Proofs.Ledger.Counter

/-!
# The check on a ledger

What the check of a coupon comes to on a ledger, for any request: which counter it looks at, and what
it says of it. There is one equation for each function of the check, whatever the ledger contains: the
outcome is the `verdict` on the coupon by the counter that the request is under. `checkFound_refuses_iff`
is the condition under which the answer is that the coupon cannot be used now.
-/

namespace Couponry

open Ledger (CounterKey counterKey)

/-- The counter that the check of a coupon looks at, if the request has what the scope counts by. -/
def EligibilityRequest.counterKey? (request : EligibilityRequest) (c : Coupon) : Option CounterKey :=
  match c.scope with
  | .limited => some (.coupon c.id)
  | .user => request.userId.map (.user c.id)
  | .product => request.productId.map (.product c.id)

/-- The check of a coupon looks at a counter of this coupon. -/
theorem EligibilityRequest.couponId_of_counterKey? {request : EligibilityRequest} {c : Coupon}
    {key : CounterKey} (asked : request.counterKey? c = some key) : key.couponId = c.id := by
  unfold counterKey? at asked
  cases scope : c.scope with
  | limited =>
    rw [scope] at asked
    cases asked
    rfl
  | user =>
    rw [scope] at asked
    obtain ⟨_, -, rfl⟩ := Option.map_eq_some_iff.1 asked
    rfl
  | product =>
    rw [scope] at asked
    obtain ⟨_, -, rfl⟩ := Option.map_eq_some_iff.1 asked
    rfl

/-- A full check looks at the counter that a redemption would move. -/
theorem EligibilityRequest.counterKey?_enforceFor (caller : UserId) (productId : Option ProductId)
    (c : Coupon) : (enforceFor caller productId).counterKey? c =
      (counterKey c.scope c.id caller productId).toOption := by
  rw [Ledger.toOption_counterKey]
  unfold counterKey?
  cases c.scope <;> rfl

/-- Why a request cannot be checked: it lacks the subject of the scope, or the store lacks its counter. -/
def Coupon.complaint (c : Coupon) (request : EligibilityRequest) : CouponError :=
  match c.scope, request.userId, request.productId with
  | .limited, _, _ => .internal s!"limited coupon {c.id.display} has no counters"
  | .user, none, _ => .invalidArgument "per-user coupon check requires a user id"
  | .user, some userId, _ =>
    .internal s!"coupon {c.id.display} has no grant for user {userId.display}"
  | .product, _, none => .invalidArgument "per-product coupon check requires a product id"
  | .product, _, some productId =>
    .internal s!"coupon {c.id.display} has no grant for product {productId.display}"

/-- The outcome of the check of a coupon at a time, by the counter that the request is under. -/
def Coupon.verdict (c : Coupon) (request : EligibilityRequest) (now : Instant)
    (limit : Option (Option Usage)) : Except CouponError CouponView :=
  if !request.enforce then .ok (c.view limit.join true)
  else if !c.isActiveAt now then .ok (c.view c.usage false)
  else
    match limit with
    | some (some u) => .ok (c.view (some u) (!u.isExhausted))
    | some none | none => .error (c.complaint request)

namespace Ledger

/-- The coupon that a code leads to. -/
def couponOf? (l : Ledger) (code : String) : Option Coupon :=
  (l.codes.get? code).bind l.coupons.get?

theorem getByCode_eq_ok_iff {l : Ledger} {code : String} {c : Coupon} :
    l.getByCode code = .ok c ↔ l.couponOf? code = some c := by
  unfold getByCode couponOf?
  cases (l.codes.get? code).bind l.coupons.get? <;> simp

/-- The counter that the scope of a coupon puts a request under: none is asked for without the subject of
the scope, and what is asked for may not be there. -/
def limit (l : Ledger) (c : Coupon) (request : EligibilityRequest) : Option (Option Usage) :=
  match c.scope with
  | .limited => some c.usage
  | .user => request.userId.map fun userId => (l.userGrants.get? (c.id, userId)).map UserGrant.usage
  | .product =>
    request.productId.map fun productId => (l.productGrants.get? (c.id, productId)).map ProductGrant.usage

/-! ## The check, function by function -/

section Perform

variable (host : HostAnswers) (l : Ledger) (c : Coupon) (code : String) (request : EligibilityRequest)
  (now : Instant)

theorem perform_scopeUsage : perform host (Eligibility.scopeUsage c request) l =
    (match l.limit c request with
      | some (some u) => .ok u
      | some none | none => .error (c.complaint request), l) := by
  unfold Eligibility.scopeUsage limit Coupon.complaint
  cases c.scope with
  | limited => cases usage : c.usage <;> simp [Eligibility.limitedUsage, usage]
  | user =>
    cases request.userId with
    | none => rfl
    | some userId =>
      cases granted : l.userGrants.get? (c.id, userId) <;> simp [Eligibility.userUsage, answer, granted]
  | product =>
    cases request.productId with
    | none => rfl
    | some productId =>
      cases granted : l.productGrants.get? (c.id, productId) <;>
        simp [Eligibility.productUsage, answer, granted]

theorem perform_shownUsage : perform host (Eligibility.shownUsage c request) l =
    (.ok (l.limit c request).join, l) := by
  unfold Eligibility.shownUsage limit
  cases c.scope with
  | limited => rfl
  | user => cases request.userId <;> rfl
  | product => cases request.productId <;> rfl

theorem perform_checkFound : perform host (Eligibility.checkFound c code request now) l =
    (c.verdict request now (l.limit c request), l) := by
  unfold Eligibility.checkFound Coupon.verdict
  cases request.enforce with
  | false => simp [perform_shownUsage]
  | true =>
    cases active : c.isActiveAt now with
    | false => simp
    | true =>
      simp only [Bool.not_true, Bool.false_eq_true, if_false, perform_bind, perform_scopeUsage]
      cases l.limit c request with
      | none => rfl
      | some counter =>
        cases counter with
        | none => rfl
        | some u => cases exhausted : u.isExhausted <;> simp [exhausted]

theorem perform_check : perform host (Eligibility.check code request now) l =
    (match l.couponOf? code with
      | none => .error (.notFound code)
      | some c => c.verdict request now (l.limit c request), l) := by
  simp only [Eligibility.check, perform_bind, perform_store, answer, getByCode]
  rw [couponOf?]
  cases (l.codes.get? code).bind l.coupons.get? with
  | none => rfl
  | some c => exact perform_checkFound host l c code request now

/-- The service checks at the time on its clock. -/
theorem perform_retrieveCoupon : perform host (Service.retrieveCoupon code request) l =
    perform host (Eligibility.check code request host.time) l := by
  simp only [Service.retrieveCoupon, perform_bind, perform_now, perform_check]
  split
  · next failed =>
    rw [failed]
    rfl
  · next shown =>
    rw [shown]
    cases request.enforce <;> rfl

/-- The request is to blame just when it lacks the subject. -/
theorem kind_complaint (c : Coupon) (request : EligibilityRequest) : (c.complaint request).kind =
    if l.limit c request = none then .invalidArgument else .internal := by
  unfold Coupon.complaint limit
  cases c.scope <;> cases request.userId <;> cases request.productId <;> rfl

end Perform

variable {l : Ledger} (host : HostAnswers) {c : Coupon} {request : EligibilityRequest}
  {code : String} {now : Instant}

/-! ## The counter of the scope -/

theorem limit_eq_none_iff : l.limit c request = none ↔ request.counterKey? c = none := by
  unfold limit EligibilityRequest.counterKey?
  cases c.scope <;> simp

/-- By a ledger that stores the coupon, a request is under the counter that the check looks at. -/
theorem limit_of_stored (stored : l.coupons.get? c.id = some c) :
    l.limit c request = (request.counterKey? c).map l.counter? := by
  unfold limit EligibilityRequest.counterKey?
  cases c.scope with
  | limited => simp [counter?, stored]
  | user => cases request.userId <;> rfl
  | product => cases request.productId <;> rfl

/-- Without the subject of its scope, the check of a coupon is a bad request. -/
theorem scopeUsage_of_unasked (unasked : request.counterKey? c = none) :
    ∃ e, perform host (Eligibility.scopeUsage c request) l = (.error e, l) ∧
      e.kind = .invalidArgument := by
  have none : l.limit c request = none := limit_eq_none_iff.2 unasked
  refine ⟨c.complaint request, ?_, ?_⟩
  · rw [perform_scopeUsage, none]
  · rw [kind_complaint l, if_pos none]

section Stored

variable {key : CounterKey} (stored : l.coupons.get? c.id = some c)
include stored

/-- The check reads the counter that it looks at. -/
theorem scopeUsage_of_counter (asked : request.counterKey? c = some key) {u : Usage}
    (counted : l.counter? key = some u) :
    perform host (Eligibility.scopeUsage c request) l = (.ok u, l) := by
  rw [perform_scopeUsage, limit_of_stored stored, asked, Option.map_some, counted]

/-- Without that counter the check fails internally. -/
theorem scopeUsage_of_none (asked : request.counterKey? c = some key) (missing : l.counter? key = none) :
    ∃ e, perform host (Eligibility.scopeUsage c request) l = (.error e, l) ∧ e.kind = .internal := by
  have lost : l.limit c request = some none := by
    rw [limit_of_stored stored, asked, Option.map_some, missing]
  refine ⟨c.complaint request, ?_, ?_⟩
  · rw [perform_scopeUsage, lost]
  · rw [kind_complaint l, lost, if_neg (Option.some_ne_none _)]

/-- The counter that a request is under is one of the coupon's. -/
theorem counter_of_limit {u : Usage} (counted : (l.limit c request).join = some u) :
    ∃ key, request.counterKey? c = some key ∧ l.counter? key = some u := by
  rw [limit_of_stored stored] at counted
  cases asked : request.counterKey? c with
  | none =>
    rw [asked] at counted
    cases counted
  | some key =>
    rw [asked] at counted
    exact ⟨key, rfl, counted⟩

/-- What the check decides by is the counter that it looks at. -/
theorem counter_of_scopeUsage {u : Usage}
    (read : (perform host (Eligibility.scopeUsage c request) l).1 = .ok u) :
    ∃ key, request.counterKey? c = some key ∧ l.counter? key = some u := by
  rw [perform_scopeUsage] at read
  refine counter_of_limit stored ?_
  cases counted : l.limit c request with
  | none =>
    rw [counted] at read
    cases read
  | some counter =>
    rw [counted] at read
    cases counter with
    | none => cases read
    | some v =>
      cases read
      rfl

end Stored

/-! ## The answer -/

/-- What is shown is the coupon, with the counter of its scope or with its own. -/
theorem view_of_verdict {limit : Option (Option Usage)} {view : CouponView}
    (shown : c.verdict request now limit = .ok view) :
    ∃ usage canUse, view = c.view usage canUse ∧ (usage = limit.join ∨ usage = c.usage) := by
  unfold Coupon.verdict at shown
  split at shown
  · cases shown
    exact ⟨_, _, rfl, .inl rfl⟩
  · split at shown
    · cases shown
      exact ⟨_, _, rfl, .inr rfl⟩
    · split at shown
      · cases shown
        exact ⟨_, _, rfl, .inl rfl⟩
      all_goals cases shown

/-- A check out of the window shows the coupon as it is, and that it cannot be used. -/
theorem checkFound_of_inactive (enforced : request.enforce = true)
    (inactive : c.isActiveAt now = false) :
    (perform host (Eligibility.checkFound c code request now) l).1 = .ok (c.view c.usage false) := by
  rw [perform_checkFound]
  simp [Coupon.verdict, enforced, inactive]

/-- A check in the window shows the counter of the scope. -/
theorem checkFound_of_active (enforced : request.enforce = true) (active : c.isActiveAt now = true) :
    (perform host (Eligibility.checkFound c code request now) l).1 =
      (perform host (Eligibility.scopeUsage c request) l).1.map
        fun u => c.view (some u) (!u.isExhausted) := by
  rw [perform_checkFound, perform_scopeUsage]
  simp only [Coupon.verdict, enforced, active, Bool.not_true, Bool.false_eq_true, if_false]
  obtain _ | _ | u := l.limit c request <;> rfl

/-- A look-up without a check never says that the coupon cannot be used. -/
theorem canUse_of_unenforced (unenforced : request.enforce = false) {view : CouponView}
    (shown : (perform host (Eligibility.checkFound c code request now) l).1 = .ok view) :
    view.canUse = true := by
  rw [perform_checkFound] at shown
  simp only [Coupon.verdict, unenforced, Bool.not_false, if_true] at shown
  cases shown
  rfl

/-- **A check refuses a coupon** just when it is made to count and finds the coupon out of its window
or the counter of its scope used up. -/
theorem checkFound_refuses_iff (stored : l.coupons.get? c.id = some c) :
    (∃ view, (perform host (Eligibility.checkFound c code request now) l).1 = .ok view ∧
        view.canUse = false) ↔
      request.enforce = true ∧ (c.isActiveAt now = false ∨
        ∃ key u, request.counterKey? c = some key ∧ l.counter? key = some u ∧
          u.isExhausted = true) := by
  constructor
  · rintro ⟨view, shown, refused⟩
    cases enforced : request.enforce with
    | false => cases (canUse_of_unenforced host enforced shown).symm.trans refused
    | true =>
      refine ⟨rfl, ?_⟩
      cases active : c.isActiveAt now with
      | false => exact .inl rfl
      | true =>
        rw [checkFound_of_active host enforced active] at shown
        cases read : (perform host (Eligibility.scopeUsage c request) l).1 with
        | error e =>
          rw [read] at shown
          cases shown
        | ok u =>
          rw [read] at shown
          cases shown
          obtain ⟨key, asked, counted⟩ := counter_of_scopeUsage host stored read
          exact .inr ⟨key, u, asked, counted, by simpa [Coupon.view] using refused⟩
  · rintro ⟨enforced, refused⟩
    cases active : c.isActiveAt now with
    | false => exact ⟨_, checkFound_of_inactive host enforced active, rfl⟩
    | true =>
      obtain inactive | ⟨key, u, asked, counted, exhausted⟩ := refused
      · cases active.symm.trans inactive
      · refine ⟨c.view (some u) (!u.isExhausted), ?_, by simp [Coupon.view, exhausted]⟩
        rw [checkFound_of_active host enforced active, scopeUsage_of_counter host stored asked counted]
        rfl

/-- The check of a code is that of the coupon that has it. -/
theorem check_of_found (found : l.getByCode code = .ok c) :
    (perform host (Eligibility.check code request now) l).1 =
      (perform host (Eligibility.checkFound c code request now) l).1 := by
  simp only [Eligibility.check, perform_bind, perform_store, answer, found]

end Ledger

end Couponry
