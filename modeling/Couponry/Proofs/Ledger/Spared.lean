import Couponry.Proofs.Ledger.WellFormed

/-!
# Coupons that are left alone

A call about other coupons changes nothing about this one: not what it is, not its counter, not how
often it was redeemed. A redemption of this one moves its counter and its records together.
-/

namespace Couponry

/-- The call does not delete this coupon, and neither takes nor records a use of it. -/
def StoreCall.Spares (id : CouponId) : StoreCall → Prop
  | .deleteCoupon k => k ≠ id
  | .insertRedemption k _ _ _ => k ≠ id
  | .redeem coupon _ _ _ => coupon.id ≠ id
  | .createCoupon _ | .getByCode _ | .getUserGrant _ _ | .getProductGrant _ _
  | .listUsedByUser _ => True

namespace Ledger

/-- Nothing about this coupon has changed. -/
structure Keeps (id : CouponId) (l l' : Ledger) : Prop where
  definition : l'.definition? id = l.definition? id
  counter : ∀ key, key.couponId = id → l'.counter? key = l.counter? key
  records : l'.redemptionCount id = l.redemptionCount id
  on : l'.failOnRedeem = l.failOnRedeem

theorem redemptionCount_addRedemption (l : Ledger) (r : RedemptionRecord) (id : CouponId) :
    (l.addRedemption r).redemptionCount id =
      l.redemptionCount id + if r.couponId = id then 1 else 0 := by
  simp [redemptionCount, addRedemption, List.countP_append, List.countP_cons]

@[simp] theorem redemptionCount_setUsage (l : Ledger) (key : CounterKey) (u : Usage) (time : Instant)
    (id : CouponId) : (l.setUsage key u time).redemptionCount id = l.redemptionCount id := by
  rw [redemptionCount, redemptions_setUsage, redemptionCount]

namespace Keeps

variable {id : CouponId} {l l' : Ledger}

theorem refl (id : CouponId) (l : Ledger) : Keeps id l l :=
  ⟨rfl, fun _ _ => rfl, rfl, rfl⟩

/-- Who spares a coupon keeps it. -/
theorem effect (wellFormed : l.WellFormed) {d : Coupon} (alive : l.definition? id = some d)
    {reply : Reply} (e : Effect l reply l') (spares : reply.call.Spares id) : Keeps id l l' := by
  cases e with
  | nothing => exact refl id l
  | created c sound free =>
    have old := wellFormed.ne_next alive
    refine ⟨?_, ?_, ?_, ?_⟩
    · rw [definition?_addCoupon, if_neg old]
    · intro key of
      rw [counter?_addCoupon c wellFormed.counter?_next, if_neg]
      rintro rfl
      rw [couponId_scopeKey] at of
      exact old of.symm
    · rw [redemptionCount, redemptions_addCoupon, redemptionCount]
    · rw [failOnRedeem_addCoupon]
  | deleted k c stored =>
    have other : id ≠ k := fun same => spares same.symm
    refine ⟨?_, ?_, rfl, rfl⟩
    · rw [definition?_removeCoupon, if_neg other]
    · intro key of
      rw [counter?_removeCoupon, of, if_neg other]
  | inserted r next =>
    refine ⟨rfl, fun key _ => counter?_addRedemption l r key, ?_, rfl⟩
    rw [redemptionCount_addRedemption, if_neg spares, Nat.add_zero]
  | redeemed coupon r key u next of on named counted left =>
    have other : key.couponId ≠ id := fun same =>
      spares ((key_of_counterKey named).1.symm.trans same)
    refine ⟨?_, ?_, ?_, ?_⟩
    · rw [definition?_addRedemption, definition?_setUsage]
    · intro k of
      rw [counter?_addRedemption, counter?_setUsage counted, if_neg]
      rintro rfl
      exact other of
    · rw [redemptionCount_addRedemption, redemptionCount_setUsage, if_neg, Nat.add_zero]
      rw [of]
      exact spares
    · exact failOnRedeem_setUsage r.redeemedAt

end Keeps

/-- A redemption of a coupon moves its counter by one and its records by one. -/
theorem redeem_counts {l l' : Ledger} {coupon : Coupon} {userId : UserId}
    {productId : Option ProductId} {time : Instant} {r : RedemptionRecord} {key : CounterKey}
    {u : Usage} (named : counterKey coupon.scope coupon.id userId productId = .ok key)
    (counted : l.counter? key = some u)
    (success : l.redeem coupon userId productId time = (.ok r, l')) :
    l'.counter? key = some u.bump ∧ l'.definition? coupon.id = l.definition? coupon.id ∧
      l'.redemptionCount coupon.id = l.redemptionCount coupon.id + 1 ∧
      l'.failOnRedeem = l.failOnRedeem := by
  obtain ⟨of, -, -, -, key', v, named', counted', -, rfl⟩ := redeem_eq_ok success
  cases named.symm.trans named'
  cases counted.symm.trans counted'
  refine ⟨?_, ?_, ?_, ?_⟩
  · rw [counter?_addRedemption, counter?_setUsage counted, if_pos rfl]
  · rw [definition?_addRedemption, definition?_setUsage]
  · rw [redemptionCount_addRedemption, redemptionCount_setUsage, if_pos of]
  · exact failOnRedeem_setUsage time

/-- A coupon that is there is found by its code. -/
theorem WellFormed.getByCode_of_definition {l : Ledger} (h : l.WellFormed) {id : CouponId} {d : Coupon}
    (alive : l.definition? id = some d) :
    ∃ c, l.getByCode d.code = .ok c ∧ l.coupons.get? id = some c ∧ c.definition = d ∧ c.id = id := by
  obtain ⟨c, stored, rfl⟩ := Option.map_eq_some_iff.1 alive
  have known : l.codes.get? c.definition.code = some id := (h.codes _ _).2 ⟨_, alive, rfl⟩
  have own : c.definition.id = id := h.own alive
  refine ⟨c, ?_, stored, rfl, own⟩
  rw [getByCode, known, Option.bind_some, stored]

end Ledger

end Couponry
