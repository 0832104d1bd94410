import Couponry.Proofs.Purchase.Course

/-!
# An attempt follows its course

The programs of the saga and of the coupon service make the calls of `Course.Step`, stage by stage, and
nothing else. There is one lemma for each of their functions, from the last to the first.
-/

namespace Couponry.Course

open Couponry.Program Couponry.Deployment

variable (a : Attempt)

/-- The steps of an attempt that the coupon component makes for it. -/
def CouponStep : Course → (c : CouponCall) → CouponCalls.Answer c → Course → Prop
  | x, .store c, answer, y => Step a x (.store c) answer y
  | x, .host c, answer, y => Step a x (.host c) answer y

section Coupon

variable {a} {α : Type} {ends : Course → α → Prop} {x : Course}

theorem follows_service {p : CouponProgram α} (follows : p.Follows (CouponStep a) ends x) :
    (service p).Follows (Step a) ends x := by
  induction p generalizing x with
  | done b => exact follows
  | ask c next ih =>
    cases c <;> intro answer <;> obtain ⟨y, go, rest⟩ := follows answer <;>
      exact ⟨y, go, ih answer rest⟩

theorem follows_store {c : StoreCall} {f : c.Answer → CouponProgram α} :
    (CouponProgram.store c >>= f).Follows (CouponStep a) ends x ↔
      ∀ answer : c.Answer, ∃ y, Step a x (.store c) answer y ∧
        (f answer).Follows (CouponStep a) ends y := Iff.rfl

theorem follows_now {f : Instant → CouponProgram α} :
    (CouponProgram.now >>= f).Follows (CouponStep a) ends x ↔
      ∀ now : Instant, ∃ y, Step a x (.host .now) now y ∧
        (f now).Follows (CouponStep a) ends y := Iff.rfl

theorem follows_log {e : Event} {f : Unit → CouponProgram α}
    (follows : (f ()).Follows (CouponStep a) ends x) :
    (CouponProgram.log e >>= f).Follows (CouponStep a) ends x :=
  fun _ => ⟨x, .note _ _ _, follows⟩

theorem follows_count {c : Counter} {f : Unit → CouponProgram α}
    (follows : (f ()).Follows (CouponStep a) ends x) :
    (CouponProgram.count c >>= f).Follows (CouponStep a) ends x :=
  fun _ => ⟨x, .note _ _ _, follows⟩

end Coupon

/-! ## The redemption -/

/-- The redemption of a coupon answers what its course has come to. -/
def Applied (tx : TxId) (record : PurchaseRecord) (x : Course) :
    Except CouponError RedemptionRecord → Prop
  | .error e => x = back tx e
  | .ok r => x = .redeemed tx record r

variable {a} {code : String} {tx : TxId} {record : PurchaseRecord}

theorem follows_applyFound (coupon : a.coupon = some code) (c : Coupon) :
    (Service.applyFound c a.caller code (some a.productId)).Follows (CouponStep a) (Applied tx record)
      (.found tx record c) := by
  simp only [Service.applyFound, follows_now]
  intro now
  refine ⟨_, .redeemTime coupon tx record c now, ?_⟩
  by_cases active : c.isActiveAt now
  · simp only [active, clocked, Bool.not_true, Bool.false_eq_true, if_false, if_true, follows_store]
    intro answer
    refine ⟨_, .redeem tx record c now answer, ?_⟩
    cases answer with
    | error e => exact follows_count (follows_log rfl)
    | ok r => exact follows_count (follows_log rfl)
  · simp only [active, clocked, Bool.not_false, if_true]
    exact follows_count rfl

theorem follows_applyCoupon (coupon : a.coupon = some code) :
    (Service.applyCoupon a.caller code (some a.productId)).Follows (CouponStep a) (Applied tx record)
      (.written tx record) := by
  simp only [Service.applyCoupon, follows_store]
  intro answer
  refine ⟨_, .find coupon tx record answer, ?_⟩
  cases answer with
  | error e => exact rfl
  | ok c => exact follows_applyFound coupon c

/-! ## The check -/

/-- The check of a coupon answers what its course has come to. -/
def Checked (code : String) (x : Course) : Except CouponError CouponView → Prop
  | .error e => x = unusable e
  | .ok view => x = if view.canUse then .ready else .failed (.couponNotUsable code)

/-- The counter that was read decides. -/
def Read (code : String) (x : Course) : Except CouponError Usage → Prop
  | .error e => x = unusable e
  | .ok u => x = judged code u

theorem follows_scopeUsage (coupon : a.coupon = some code) {c : Coupon} {now : Instant}
    (active : c.isActiveAt now = true) :
    (Eligibility.scopeUsage c (.enforceFor a.caller.userId (some a.productId))).Follows (CouponStep a)
      (Read code) (checked code now (.ok c)) := by
  unfold Eligibility.scopeUsage
  simp only [checked, active, if_true]
  cases scope : c.scope with
  | limited =>
    cases counters : Eligibility.limitedUsage c with
    | error e => exact rfl
    | ok u => exact rfl
  | user =>
    simp only [Eligibility.userUsage, EligibilityRequest.enforceFor, follows_store]
    intro answer
    refine ⟨_, .userGrant coupon scope answer, ?_⟩
    rcases answer with e | _ | g <;> exact rfl
  | product =>
    simp only [Eligibility.productUsage, EligibilityRequest.enforceFor, follows_store]
    intro answer
    refine ⟨_, .productGrant coupon scope answer, ?_⟩
    rcases answer with e | _ | g <;> exact rfl

theorem follows_checkFound (coupon : a.coupon = some code) (c : Coupon) (now : Instant) :
    (Eligibility.checkFound c code (.enforceFor a.caller.userId (some a.productId)) now).Follows
      (CouponStep a) (Checked code) (checked code now (.ok c)) := by
  have enforced : (EligibilityRequest.enforceFor a.caller.userId (some a.productId)).enforce = true :=
    rfl
  simp only [Eligibility.checkFound, enforced, Bool.not_true, Bool.false_eq_true, if_false]
  by_cases active : c.isActiveAt now
  · simp only [active, Bool.not_true, Bool.false_eq_true, if_false]
    refine (follows_scopeUsage coupon active).bind ?_
    intro y read reads
    cases read with
    | error e => exact reads
    | ok u =>
      have decided : Checked code y (.ok (c.view (some u) (!u.isExhausted))) := by
        rw [Checked, show y = judged code u from reads]
        cases left : u.isExhausted <;> simp [judged, Coupon.view, left]
      dsimp only
      split
      · exact follows_log decided
      · exact decided
  · have refused : checked code now (.ok c) = .failed (.couponNotUsable code) := by
      simp [checked, active]
    simp only [active, Bool.not_false, if_true, refused]
    exact follows_log rfl

theorem follows_retrieveCoupon (coupon : a.coupon = some code) :
    (Service.retrieveCoupon code (.enforceFor a.caller.userId (some a.productId))).Follows
      (CouponStep a) (Checked code) .checking := by
  simp only [Service.retrieveCoupon, follows_now]
  intro now
  refine ⟨_, .checkTime now, ?_⟩
  have check : (Eligibility.check code (.enforceFor a.caller.userId (some a.productId)) now).Follows
      (CouponStep a) (Checked code) (.timed now) := by
    simp only [Eligibility.check, follows_store]
    intro answer
    refine ⟨_, .check coupon now answer, ?_⟩
    cases answer with
    | error e => exact rfl
    | ok c => exact follows_checkFound coupon c now
  refine check.bind ?_
  intro y view shown
  cases view with
  | error e => exact shown
  | ok view => exact follows_count shown

/-! ## The saga -/

/-- A program of the saga, with the coupon component in the same process. -/
abbrev wired {α : Type} (p : SagaProgram α) : SystemProgram α :=
  p.via (ofSaga inProcess)

/-- An attempt is at a stage where it ends with this outcome. -/
def Ended (x : Course) (o : Saga.Outcome) : Prop :=
  x.result? = some o.1

section Saga

variable {α : Type} {ends : Course → α → Prop} {x : Course}

theorem follows_products {c : ProductCall} {f : c.Answer → SagaProgram α} :
    (wired (Saga.products c >>= f)).Follows (Step a) ends x ↔
      ∀ answer : c.Answer, ∃ y, Step a x (.products c) answer y ∧
        (wired (f answer)).Follows (Step a) ends y := Iff.rfl

theorem follows_coupons {c : ClientCall} {mid : Course → c.Answer → Prop}
    {f : c.Answer → SagaProgram α} (first : (inProcess c).Follows (Step a) mid x)
    (second : ∀ y answer, mid y answer → (wired (f answer)).Follows (Step a) ends y) :
    (wired (Saga.coupons c >>= f)).Follows (Step a) ends x :=
  first.bind second

theorem follows_note {o : Observation} {f : Unit → SagaProgram α}
    (follows : (wired (f ())).Follows (Step a) ends x) :
    (wired (Program.call (S := SagaCalls) (.host (.note o)) >>= f)).Follows (Step a) ends x :=
  fun _ => ⟨x, .note _ _ _, follows⟩

theorem follows_advance {state next : PurchaseState} {rest : SagaProgram Saga.Outcome}
    (move : state.canMoveTo next = true) (follows : (wired rest).Follows (Step a) Ended x) :
    (wired (Saga.advance state next rest)).Follows (Step a) Ended x := by
  unfold Saga.advance
  rw [if_pos move]
  exact follows_note follows

theorem follows_rollback {e : PurchaseError} {state : PurchaseState} :
    (wired (Saga.rollback tx >>= fun _ => return (.error e, state))).Follows (Step a) Ended
      (.refused tx e) := by
  intro answer
  refine ⟨_, .rollback tx e answer, ?_⟩
  cases answer with
  | error e => exact follows_note (x := .failed _) rfl
  | ok _ => exact rfl

end Saga

theorem follows_finish (plain : a.coupon = none) :
    (wired (Saga.finish .reserving a.caller a.productId none tx record)).Follows (Step a) Ended
      (.written tx record) := by
  simp only [Saga.finish, follows_products]
  intro answer
  refine ⟨_, .commit plain tx record answer, ?_⟩
  cases answer with
  | error e => exact rfl
  | ok _ => exact follows_advance rfl rfl

theorem follows_finish_with (coupon : a.coupon = some code) (r : RedemptionRecord) :
    (wired (Saga.finish .redeeming a.caller a.productId (some code) tx record)).Follows (Step a) Ended
      (.redeemed tx record r) := by
  simp only [Saga.finish, follows_products]
  intro answer
  refine ⟨_, .commitWith coupon tx record r answer, ?_⟩
  cases answer with
  | error e => exact follows_note (follows_note rfl)
  | ok _ => exact follows_advance rfl rfl

theorem follows_redeem :
    (wired (Saga.redeem a.caller a.productId a.coupon tx record)).Follows (Step a) Ended
      (.written tx record) := by
  cases coupon : a.coupon with
  | none => exact follows_finish coupon
  | some code =>
    refine follows_advance rfl ?_
    have applied : (inProcess (.redeem a.caller code (some a.productId))).Follows (Step a)
        (fun x answer => match answer with
          | .error e => x = .refused tx (.coupon e)
          | .ok () => ∃ r, x = .redeemed tx record r) (.written tx record) := by
      refine follows_service ((follows_applyCoupon coupon).bind ?_)
      rintro y (e | r) rfl
      · exact rfl
      · exact ⟨r, rfl⟩
    refine follows_coupons applied ?_
    rintro y (e | _) came
    · subst came
      exact follows_rollback
    · obtain ⟨r, rfl⟩ := came
      exact follows_finish_with coupon r

theorem follows_reserve (product : Product) (discounted : Money) :
    (wired (Saga.reserve a.caller product a.productId discounted a.coupon)).Follows (Step a) Ended
      .ready := by
  simp only [Saga.reserve, follows_products]
  intro answer
  refine ⟨_, .begin answer, ?_⟩
  cases answer with
  | error e => exact rfl
  | ok tx =>
    refine follows_advance rfl ?_
    intro now
    refine ⟨_, .writeTime tx now, ?_⟩
    intro answer
    refine ⟨_, .write tx rfl rfl rfl answer, ?_⟩
    cases answer with
    | error e => exact follows_rollback
    | ok record => exact follows_redeem

theorem follows_validate (product : Product) (answer : Product) :
    (wired (Saga.validate a.caller product a.productId a.coupon)).Follows (Step a) Ended
      (lookedUp a.coupon (.ok answer)) := by
  have reserve := follows_reserve (a := a) product
  cases coupon : a.coupon with
  | none =>
    rw [coupon] at reserve
    exact follows_advance rfl (reserve product.price)
  | some code =>
    rw [coupon] at reserve
    have checked : (inProcess (.check code (.enforceFor a.caller.userId (some a.productId)))).Follows
        (Step a) (fun x answer => match answer with
          | .error e => x = .failed (.coupon e)
          | .ok view => x = if view.canUse then .ready else .failed (.couponNotUsable code))
        .checking := by
      refine follows_service ((follows_retrieveCoupon coupon).bind ?_)
      rintro y (e | view) came
      · exact came
      · exact came
    refine follows_coupons checked ?_
    rintro y (e | view) came
    · subst came
      exact rfl
    · cases use : view.canUse with
      | false =>
        obtain rfl : y = .failed (.couponNotUsable code) := by simpa [use] using came
        simp only [use]
        exact rfl
      | true =>
        obtain rfl : y = .ready := by simpa [use] using came
        simp only [use, if_true]
        exact follows_advance rfl (reserve _)

theorem follows_attempt :
    (wired (Saga.attempt a.caller a.productId a.coupon)).Follows (Step a) Ended .start := by
  simp only [Saga.attempt, follows_products]
  intro answer
  refine ⟨_, .lookup answer, ?_⟩
  cases answer with
  | error e => exact rfl
  | ok product => exact follows_validate product product

/-- **An attempt follows its course**, whatever the stores and the host answer. -/
theorem follows_program (a : Attempt) :
    a.program.Follows (Step a) (fun x result => x.result? = some result) .start := by
  refine follows_note ?_
  refine Follows.via_bind follows_attempt ?_
  rintro y ⟨result, state⟩ ended
  refine follows_note ?_
  cases result with
  | ok record => exact follows_note (follows_note ended)
  | error e =>
    show (wired (Saga.markFailed state >>= _)).Follows _ _ _
    unfold Saga.markFailed
    split <;> exact follows_note (follows_note (follows_note ended))

end Couponry.Course
