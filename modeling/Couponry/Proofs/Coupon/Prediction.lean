import Couponry.Proofs.Coupon.Check
import Couponry.Proofs.Ledger.WellFormed

/-!
# The check predicts the redemption

The check of a coupon and its redemption decide by the same tests, each in its own words: the check by
the counter that it reads, the redemption by the refusal of the store. `Predicts` lists the three ways
in which their outcomes can go together, and `check_predicts_apply` reads the claims off it.
-/

namespace Couponry

open Ledger (counterKey)

/-- The outcomes of a check and of a redemption that go together. -/
inductive Predicts : Except CouponError CouponView → Except CouponError RedemptionRecord → Prop where
  | usable (view : CouponView) (r : RedemptionRecord) (use : view.canUse = true) :
      Predicts (.ok view) (.ok r)
  | unusable (view : CouponView) (e : CouponError) (use : view.canUse = false)
      (kind : e.kind = .failedPrecondition) : Predicts (.ok view) (.error e)
  | failed (e e' : CouponError) (same : e.kind = e'.kind) (other : e.kind ≠ .failedPrecondition) :
      Predicts (.error e) (.error e')

namespace Ledger

variable {l : Ledger} (host : HostAnswers)

/-- Without a counter to move, the redemption is a bad request. -/
theorem kind_of_counterKey_error {c : Coupon} {caller : UserId} {productId : Option ProductId}
    {e : StoreError} (named : counterKey c.scope c.id caller productId = .error e) :
    (CouponError.ofStore e).kind = .invalidArgument := by
  cases scope : c.scope <;> cases productId <;> rw [scope] at named <;> cases named
  rfl

/-- Without that counter the redemption fails internally, too: the coupon itself is there. -/
theorem usage_of_none {c : Coupon} {caller : UserId} {productId : Option ProductId}
    {key : CounterKey} (stored : l.coupons.get? c.id = some c)
    (named : counterKey c.scope c.id caller productId = .ok key) (missing : l.counter? key = none) :
    ∃ e, l.usage key = .error e ∧ (CouponError.ofStore e).kind = .internal := by
  cases scope : c.scope <;> rw [scope] at named
  · cases named
    have none : c.usage = none := by simpa [counter?, stored] using missing
    refine ⟨.corrupt s!"limited coupon {c.id.display} has no counters", ?_, rfl⟩
    simp [usage, stored, none]
  · cases named
    have none := Option.map_eq_none_iff.1 missing
    refine ⟨.grantNotFound c.id s!"user {caller.display}", ?_, rfl⟩
    simp [usage, none]
  · obtain _ | product := productId <;> cases named
    have none := Option.map_eq_none_iff.1 missing
    refine ⟨.grantNotFound c.id s!"product {product.display}", ?_, rfl⟩
    simp [usage, none]

/-- A redemption in the window ends as the store answers. -/
theorem applyFound_of_active {c : Coupon} (active : c.isActiveAt host.time = true)
    (caller : Identity) (code : String) (productId : Option ProductId) :
    (perform host (Service.applyFound c caller code productId) l).1 =
      (l.redeem c caller.userId productId host.time).1.mapError CouponError.ofStore := by
  simp only [Service.applyFound, perform_bind, perform_now, active, Bool.not_true,
    Bool.false_eq_true, if_false, perform_store, answer]
  split <;> next answer =>
    rw [answer]
    rfl

/-- The outcomes on a coupon that was found, by the tests in their order. -/
theorem predicts_found (on : l.failOnRedeem = false) {c : Coupon} (caller : Identity)
    (code : String) (productId : Option ProductId) (stored : l.coupons.get? c.id = some c) :
    Predicts
      (perform host (Eligibility.checkFound c code (.enforceFor caller.userId productId) host.time) l).1
      (perform host (Service.applyFound c caller code productId) l).1 := by
  have asked := EligibilityRequest.counterKey?_enforceFor caller.userId productId c
  cases active : c.isActiveAt host.time with
  | false =>
    have apply : (perform host (Service.applyFound c caller code productId) l).1 =
        .error (.failedPrecondition s!"coupon {code} is outside its validity window") := by
      simp [Service.applyFound, active]
    rw [checkFound_of_inactive host rfl active, apply]
    exact .unusable _ _ rfl rfl
  | true =>
    rw [checkFound_of_active host rfl active, applyFound_of_active host active]
    cases named : counterKey c.scope c.id caller.userId productId with
    | error e =>
      rw [named] at asked
      obtain ⟨e', check, kind⟩ := scopeUsage_of_unasked (l := l) host asked
      rw [check, redeem_of_unnamed on named]
      exact .failed e' _ (kind.trans (kind_of_counterKey_error named).symm) (by rw [kind]; nofun)
    | ok key =>
      rw [named] at asked
      cases counted : l.counter? key with
      | none =>
        obtain ⟨e, check, kind⟩ := scopeUsage_of_none host stored asked counted
        obtain ⟨e', none, kind'⟩ := usage_of_none stored named counted
        rw [check, redeem_of_uncounted on named none]
        exact .failed e _ (kind.trans kind'.symm) (by rw [kind]; nofun)
      | some u =>
        rw [scopeUsage_of_counter host stored asked counted]
        cases exhausted : u.isExhausted with
        | true =>
          rw [redeem_of_exhausted on named counted exhausted]
          exact .unusable _ _ (by simp [Coupon.view, exhausted]) rfl
        | false =>
          rw [redeem_of_left on named counted exhausted]
          exact .usable _ _ (by simp [Coupon.view, exhausted])

/-- The outcomes on a well-formed ledger. -/
theorem WellFormed.predicts (h : l.WellFormed) (on : l.failOnRedeem = false) (caller : Identity)
    (code : String) (productId : Option ProductId) :
    Predicts
      (perform host (Eligibility.check code (.enforceFor caller.userId productId) host.time) l).1
      (perform host (Service.applyCoupon caller code productId) l).1 := by
  simp only [Eligibility.check, Service.applyCoupon, perform_bind, perform_store, answer]
  cases found : l.getByCode code with
  | error e =>
    have unknown : e = .couponNotFound code := by
      unfold getByCode at found
      split at found <;> cases found
      rfl
    subst unknown
    exact .failed _ _ rfl (by rintro ⟨⟩)
  | ok c => exact predicts_found host on caller code productId (h.stored_of_getByCode found).1

/-- **The check predicts the redemption.** On every reachable ledger whose redemptions are not made
to fail, the check is positive just when the redemption at the same time succeeds, negative just when
the redemption fails for its precondition, and fails just when the redemption fails with the same
kind. -/
theorem check_predicts_apply (reached : l.Reachable) (on : l.failOnRedeem = false)
    (caller : Identity) (code : String) (productId : Option ProductId) :
    let c := (perform host (Eligibility.check code (.enforceFor caller.userId productId) host.time) l).1
    let r := (perform host (Service.applyCoupon caller code productId) l).1
    ((∃ view, c = .ok view ∧ view.canUse = true) ↔ ∃ record, r = .ok record) ∧
      ((∃ view, c = .ok view ∧ view.canUse = false) ↔
        ∃ e, r = .error e ∧ e.kind = .failedPrecondition) ∧
      ∀ k ∈ [ErrorKind.notFound, .invalidArgument, .internal],
        (∃ e, c = .error e ∧ e.kind = k) ↔ ∃ e, r = .error e ∧ e.kind = k := by
  intro c r
  have together : Predicts c r := reached.wellFormed.predicts host on caller code productId
  generalize c = c, r = r at together
  cases together with
  | usable view r use => simp [use]
  | unusable view e use kind => simp [use, kind]
  | failed e e' same other =>
    have other' : e'.kind ≠ .failedPrecondition := same ▸ other
    simp [same, other']

/-- The last use of a coupon is predicted before it is taken, and the refusal after it. -/
theorem check_predicts_last_use :
    let host := HostAnswers.stopped ⟨5, 0⟩
    let caller : Identity := ⟨⟨2⟩, .user⟩
    let apply := fun l => (perform host (Service.applyCoupon caller "ONCE" none) l).1
    let unused := Ledger.empty.exec (.call (.createCoupon single))
    let used := unused.exec (.call (.redeem (single.stored ⟨1⟩) ⟨2⟩ none ⟨5, 0⟩))
    unused.Reachable ∧ unused.failOnRedeem = false ∧ (∃ record, apply unused = .ok record) ∧
      used.Reachable ∧ used.failOnRedeem = false ∧
        ∃ e, apply used = .error e ∧ e.kind = .failedPrecondition := by
  intro host caller apply unused used
  have reached : unused.Reachable := .exec .empty _
  have reached' : used.Reachable := .exec reached _
  have usable := (check_predicts_apply host reached rfl caller "ONCE" none).1
  have unusable := (check_predicts_apply host reached' rfl caller "ONCE" none).2.1
  exact ⟨reached, rfl, usable.1 ⟨_, rfl, rfl⟩, reached', rfl, unusable.1 ⟨_, rfl, rfl⟩⟩

end Ledger

end Couponry
