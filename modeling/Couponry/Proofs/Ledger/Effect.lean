import Couponry.Proofs.Ledger.Counter

/-!
# What a call does to a ledger

A call either leaves the ledger as it is or does one of four things. `effect_answer` says which, with
all that was tested before; every invariant is proved from these five cases, and no later proof opens
an operation of the ledger again.
-/

namespace Couponry

/-- A call to the store of coupons with its answer. -/
structure Reply where
  call : StoreCall
  answer : call.Answer

namespace Reply

/-- The creation of a coupon, with the id it was given. -/
def creation (c : NewCoupon) (id : CouponId) : Reply :=
  ⟨.createCoupon c, .ok id⟩

/-- The deletion of a coupon. -/
def deletion (id : CouponId) : Reply :=
  ⟨.deleteCoupon id, .ok ()⟩

/-- A record that was inserted. -/
def insertion (r : RedemptionRecord) : Reply :=
  ⟨.insertRedemption r.couponId r.userId r.productId r.redeemedAt, .ok r⟩

/-- A redemption of a coupon that was handed over. -/
def redemption (coupon : Coupon) (r : RedemptionRecord) : Reply :=
  ⟨.redeem coupon r.userId r.productId r.redeemedAt, .ok r⟩

/-- The call was to change something, and did. -/
def changes : Reply → Bool
  | ⟨.createCoupon _, .ok _⟩ => true
  | ⟨.deleteCoupon _, .ok _⟩ => true
  | ⟨.insertRedemption _ _ _ _, .ok _⟩ => true
  | ⟨.redeem _ _ _ _, .ok _⟩ => true
  | _ => false

end Reply

namespace Ledger

/-- The reply to a call, and the ledger after it. -/
inductive Effect (l : Ledger) : Reply → Ledger → Prop where
  | nothing (reply : Reply) (quiet : reply.changes = false) : Effect l reply l
  | created (c : NewCoupon) (sound : c.fault? = none) (free : l.codes.get? c.code = none) :
      Effect l (.creation c l.nextCouponId) (l.addCoupon c)
  | deleted (id : CouponId) (c : Coupon) (stored : l.coupons.get? id = some c) :
      Effect l (.deletion id) (l.removeCoupon id c)
  | inserted (r : RedemptionRecord) (next : r.id = l.lastRedemptionId + 1) :
      Effect l (.insertion r) (l.addRedemption r)
  | redeemed (coupon : Coupon) (r : RedemptionRecord) (key : CounterKey) (u : Usage)
      (next : r.id = l.lastRedemptionId + 1) (of : r.couponId = coupon.id)
      (on : l.failOnRedeem = false)
      (named : counterKey coupon.scope coupon.id r.userId r.productId = .ok key)
      (counted : l.counter? key = some u) (left : u.used < u.total) :
      Effect l (.redemption coupon r) ((l.setUsage key u.bump r.redeemedAt).addRedemption r)

theorem effect_createCoupon (l : Ledger) (c : NewCoupon) :
    Effect l ⟨.createCoupon c, (l.createCoupon c).1⟩ (l.createCoupon c).2 := by
  unfold createCoupon
  split
  · exact .nothing _ rfl
  · next sound =>
    split
    · exact .nothing _ rfl
    · next taken =>
      exact .created c sound (by simpa [Table.contains] using taken)

theorem effect_deleteCoupon (l : Ledger) (id : CouponId) :
    Effect l ⟨.deleteCoupon id, (l.deleteCoupon id).1⟩ (l.deleteCoupon id).2 := by
  unfold deleteCoupon
  split
  · exact .nothing _ rfl
  · next c stored => exact .deleted id c stored

theorem effect_redeem (l : Ledger) (coupon : Coupon) (userId : UserId)
    (productId : Option ProductId) (time : Instant) :
    Effect l ⟨.redeem coupon userId productId time, (l.redeem coupon userId productId time).1⟩
      (l.redeem coupon userId productId time).2 := by
  unfold redeem
  split
  · exact .nothing _ rfl
  · next on =>
    split
    · exact .nothing _ rfl
    · next key named =>
      split
      · exact .nothing _ rfl
      · next u counted =>
        split
        · exact .nothing _ rfl
        · next left =>
          have used : u.used < u.total := by simpa [Usage.isExhausted] using left
          exact .redeemed coupon (l.nextRecord coupon.id userId productId time) key u rfl rfl
            (by simpa using on) named (usage_eq_ok_iff.1 counted) used

/-- What a creation that succeeds has tested and done. -/
theorem createCoupon_eq_ok {l after : Ledger} {c : NewCoupon} {id : CouponId}
    (success : l.createCoupon c = (.ok id, after)) :
    c.fault? = none ∧ l.codes.get? c.code = none ∧ id = l.nextCouponId ∧ after = l.addCoupon c := by
  have e := effect_createCoupon l c
  rw [success] at e
  cases e with
  | nothing _ quiet => cases quiet
  | created c sound free => exact ⟨sound, free, rfl, rfl⟩

/-- A creation adds nothing to the history. -/
theorem redemptions_createCoupon (l : Ledger) (c : NewCoupon) :
    (l.createCoupon c).2.redemptions = l.redemptions := by
  unfold createCoupon
  split
  · rfl
  · split
    · rfl
    · exact redemptions_addCoupon l c

/-- A deletion leaves the history. -/
theorem redemptions_deleteCoupon (l : Ledger) (id : CouponId) :
    (l.deleteCoupon id).2.redemptions = l.redemptions := by
  unfold deleteCoupon
  split <;> rfl

/-- What a redemption that succeeds has tested and done. -/
theorem redeem_eq_ok {l after : Ledger} {coupon : Coupon} {userId : UserId}
    {productId : Option ProductId} {time : Instant} {r : RedemptionRecord}
    (success : l.redeem coupon userId productId time = (.ok r, after)) :
    r.couponId = coupon.id ∧ r.userId = userId ∧ r.productId = productId ∧ r.redeemedAt = time ∧
      ∃ key u, counterKey coupon.scope coupon.id userId productId = .ok key ∧
        l.counter? key = some u ∧ u.used < u.total ∧
        after = (l.setUsage key u.bump time).addRedemption r := by
  have e := effect_redeem l coupon userId productId time
  rw [success] at e
  cases e with
  | nothing _ quiet => cases quiet
  | redeemed coupon r key u _ of _ named counted left =>
    exact ⟨of, rfl, rfl, rfl, key, u, named, counted, left, rfl⟩

/-- A redemption gets the next id. -/
theorem id_of_redeem {l after : Ledger} {coupon : Coupon} {userId : UserId}
    {productId : Option ProductId} {time : Instant} {r : RedemptionRecord}
    (success : l.redeem coupon userId productId time = (.ok r, after)) :
    r.id = l.lastRedemptionId + 1 := by
  have e := effect_redeem l coupon userId productId time
  rw [success] at e
  cases e with
  | nothing _ quiet => cases quiet
  | redeemed coupon r key u next => exact next

/-- A redemption that fails changes nothing. -/
theorem redeem_eq_error {l after : Ledger} {coupon : Coupon} {userId : UserId}
    {productId : Option ProductId} {time : Instant} {e : StoreError}
    (failure : l.redeem coupon userId productId time = (.error e, after)) : after = l := by
  have effect := effect_redeem l coupon userId productId time
  rw [failure] at effect
  cases effect
  rfl

/-! ## How a redemption is decided -/

section Decide

variable {l : Ledger} {coupon : Coupon} {userId : UserId} {productId : Option ProductId}
  {key : CounterKey} {u : Usage} {time : Instant}

theorem redeem_of_unnamed {e : StoreError} (on : l.failOnRedeem = false)
    (named : counterKey coupon.scope coupon.id userId productId = .error e) :
    l.redeem coupon userId productId time = (.error e, l) := by
  simp only [redeem, on, Bool.false_eq_true, if_false, named]

theorem redeem_of_uncounted {e : StoreError} (on : l.failOnRedeem = false)
    (named : counterKey coupon.scope coupon.id userId productId = .ok key)
    (uncounted : l.usage key = .error e) :
    l.redeem coupon userId productId time = (.error e, l) := by
  simp only [redeem, on, Bool.false_eq_true, if_false, named, uncounted]

theorem redeem_of_exhausted (on : l.failOnRedeem = false)
    (named : counterKey coupon.scope coupon.id userId productId = .ok key)
    (counted : l.counter? key = some u) (exhausted : u.isExhausted = true) :
    l.redeem coupon userId productId time =
      (.error (.quotaExhausted coupon.id coupon.scope.name), l) := by
  simp only [redeem, on, Bool.false_eq_true, if_false, named, usage_eq_ok_iff.2 counted, exhausted,
    if_true]

theorem redeem_of_left (on : l.failOnRedeem = false)
    (named : counterKey coupon.scope coupon.id userId productId = .ok key)
    (counted : l.counter? key = some u) (left : u.isExhausted = false) :
    l.redeem coupon userId productId time =
      (.ok (l.nextRecord coupon.id userId productId time),
        (l.setUsage key u.bump time).addRedemption (l.nextRecord coupon.id userId productId time)) := by
  simp only [redeem, on, Bool.false_eq_true, if_false, named, usage_eq_ok_iff.2 counted, left]

end Decide

/-- **The five cases of a call.** -/
theorem effect_answer (l : Ledger) (call : StoreCall) :
    Effect l ⟨call, (answer call l).1⟩ (answer call l).2 := by
  cases call with
  | createCoupon c => exact effect_createCoupon l c
  | deleteCoupon id => exact effect_deleteCoupon l id
  | redeem coupon userId productId time => exact effect_redeem l coupon userId productId time
  | insertRedemption id userId productId time => exact .inserted (l.nextRecord id userId productId time) rfl
  | getByCode code => exact .nothing _ (by cases l.getByCode code <;> rfl)
  | getUserGrant _ _ | getProductGrant _ _ | listUsedByUser _ => exact .nothing _ rfl

/-- A call that fails changes nothing. -/
theorem answer_eq_error {l after : Ledger} {c : StoreCall} {e : StoreError}
    (failure : answer c l = (.error e, after)) : after = l := by
  have effect := effect_answer l c
  rw [failure] at effect
  cases effect
  rfl

/-! ## Runs -/

/-- What can happen to a ledger: a call, or a turn of the switch that makes redemptions fail. -/
inductive Command where
  | call (c : StoreCall)
  | failOnRedeem (fail : Bool)

/-- The ledger after a command. -/
def exec (l : Ledger) : Command → Ledger
  | .call c => (answer c l).2
  | .failOnRedeem fail => { l with failOnRedeem := fail }

/-- The ledgers that commands lead to from the empty one. -/
inductive Reachable : Ledger → Prop where
  | empty : Reachable .empty
  | exec {l : Ledger} (reached : Reachable l) (command : Command) : Reachable (l.exec command)

/-- The ledger after a run of commands. -/
def run (l : Ledger) (commands : List Command) : Ledger :=
  commands.foldl exec l

theorem Reachable.run {l : Ledger} (reached : Reachable l) (commands : List Command) :
    Reachable (l.run commands) := by
  induction commands generalizing l with
  | nil => exact reached
  | cons command commands ih => exact ih (reached.exec command)

end Ledger

end Couponry
