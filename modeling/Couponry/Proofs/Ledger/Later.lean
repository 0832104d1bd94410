import Couponry.Proofs.Ledger.WellFormed

/-!
# What later ledgers keep

Whoever calls a ledger meanwhile, an id that was given out never comes to mean another coupon, and no
redemption is ever forgotten. This is all that a caller can rely on between two calls of its own.
-/

namespace Couponry.Ledger

/-- `l'` may have come of `l`. -/
structure Later (l l' : Ledger) : Prop where
  last : l.lastCouponId ≤ l'.lastCouponId
  definition : ∀ id d, id.value ≤ l.lastCouponId → l'.definition? id = some d →
    l.definition? id = some d
  redemptions : l.redemptions <+: l'.redemptions

namespace Later

theorem refl (l : Ledger) : Later l l :=
  ⟨Int.le_refl _, fun _ _ _ => id, List.prefix_refl _⟩

theorem effect {l l' : Ledger} {reply : Reply} (e : Effect l reply l') : Later l l' := by
  cases e with
  | nothing => exact refl l
  | created c sound free =>
    refine ⟨?_, ?_, ?_⟩
    · rw [lastCouponId_addCoupon]
      omega
    · intro id d old stored
      rw [definition?_addCoupon, if_neg] at stored
      · exact stored
      · rintro rfl
        simp only [nextCouponId] at old
        omega
    · simp only [redemptions_addCoupon, List.prefix_refl]
  | deleted id c stored =>
    refine ⟨Int.le_refl _, ?_, List.prefix_refl _⟩
    intro k d _ left
    rw [definition?_removeCoupon] at left
    split at left
    · cases left
    · exact left
  | inserted r next => exact ⟨Int.le_refl _, fun _ _ _ => id, List.prefix_append _ _⟩
  | redeemed coupon r key u =>
    refine ⟨?_, ?_, ?_⟩
    · show l.lastCouponId ≤ (l.setUsage key u.bump r.redeemedAt).lastCouponId
      exact Int.le_of_eq (lastCouponId_setUsage _).symm
    · intro id d _ stored
      rwa [definition?_addRedemption, definition?_setUsage] at stored
    · show l.redemptions <+: (l.setUsage key u.bump r.redeemedAt).redemptions ++ [r]
      rw [redemptions_setUsage]
      exact List.prefix_append _ _

/-- A call leads to a later ledger. -/
theorem answer (l : Ledger) (c : StoreCall) : Later l (Ledger.answer c l).2 :=
  effect (effect_answer l c)

end Later

/-- The ids of the redemptions are those given out so far. -/
theorem WellFormed.redemptionId_le {l : Ledger} (h : l.WellFormed) {r : RedemptionRecord}
    (made : r ∈ l.redemptions) : r.id ≤ l.lastRedemptionId := by
  have named : r.id ∈ l.redemptions.map RedemptionRecord.id := List.mem_map_of_mem made
  rw [h.numbered] at named
  obtain ⟨i, bound, same⟩ := List.mem_map.1 named
  have := List.mem_range.1 bound
  rw [h.lastRedemption, ← same]
  omega

end Couponry.Ledger
