import Couponry.Coupon.Basic
import Couponry.Proofs.Text.Blank

/-!
# Coupons that may be stored

What the tests on a coupon that is to be created come to: `NewCoupon.valid_of_sound` says all that is
known of a coupon with which nothing is wrong, so that no later proof goes through the tests again. And what
is then held of it, `NewCoupon.coupon`.
-/

namespace Couponry

open Couponry.Text

/-- The rule is a percentage of at most a hundred, or an amount that is no debt. -/
def DiscountRule.InRange : DiscountRule → Prop
  | .percent p => p ≤ 100
  | .fixedValue amount => 0 ≤ amount.cents

/-- What its parts make of a rule is the rule itself, if it is in range. -/
theorem DiscountRule.ofParts_eq_ok_iff {rule made : DiscountRule} :
    ofParts rule.kind rule.value = .ok made ↔ rule.InRange ∧ made = rule := by
  cases rule with
  | percent p =>
    by_cases within : (0 : Int) ≤ p ∧ (p : Int) ≤ 100
    · have read : ofParts .percent p = .ok (.percent p) := if_pos within
      have range : p ≤ 100 := Int.ofNat_le.1 within.2
      simp only [kind, value, read, Except.ok.injEq, InRange, range, true_and, eq_comm]
    · have refused : ofParts .percent p = .error (.percentOutOfRange p) := if_neg within
      have range : ¬ p ≤ 100 := by omega
      simp only [kind, value, refused, reduceCtorEq, InRange, range, false_and]
  | fixedValue amount =>
    by_cases positive : 0 ≤ amount.cents
    · have read : ofParts .value amount.cents = .ok (.fixedValue amount) := if_pos positive
      simp only [kind, value, read, Except.ok.injEq, InRange, positive, true_and, eq_comm]
    · have refused : ofParts .value amount.cents = .error (.negativeValue amount.cents) :=
        if_neg positive
      simp only [kind, value, refused, reduceCtorEq, InRange, positive, false_and]

/-- The scope, whoever or whatever it is for. -/
def CouponScope.withoutSubject : CouponScope → ScopeKind
  | .limited => .limited
  | .perUser _ => .user
  | .perProduct _ => .product

namespace NewCoupon

/-- The coupon may be stored. -/
structure Valid (c : NewCoupon) : Prop where
  code : ¬OnlyWhiteSpace c.code
  window : c.validFrom < c.validTo
  discount : c.discount.InRange
  total : 0 < c.total

theorem valid_of_sound {c : NewCoupon} (sound : c.fault? = none) : c.Valid := by
  unfold fault? at sound
  split at sound
  · cases sound
  · next code =>
    split at sound
    · cases sound
    · next opens =>
      split at sound
      · cases sound
      · next rule parts =>
        split at sound
        · cases sound
        · next uses =>
          exact ⟨allBlank_eq_false_iff.1 (Bool.eq_false_iff.2 code),
            Decidable.not_not.1 fun closed => opens (Instant.le_iff_not_lt.2 closed),
            (DiscountRule.ofParts_eq_ok_iff.1 parts).1, by omega⟩

theorem sound_of_valid {c : NewCoupon} (valid : c.Valid) : c.fault? = none := by
  have opens : ¬ c.validTo ≤ c.validFrom := fun closed => Instant.le_iff_not_lt.1 closed valid.window
  have parts := DiscountRule.ofParts_eq_ok_iff.2 ⟨valid.discount, rfl⟩
  have uses : ¬ c.total ≤ 0 := Int.not_le.2 valid.total
  simp [fault?, allBlank_eq_false_iff.2 valid.code, opens, parts, uses]

/-- Nothing is wrong with a coupon just when it may be stored. -/
theorem sound_iff {c : NewCoupon} : c.fault? = none ↔ c.Valid :=
  ⟨valid_of_sound, sound_of_valid⟩

/-- The coupon under its id, of which no use is taken. Only one that is limited as a whole has a counter. -/
def coupon (c : NewCoupon) (id : CouponId) : Coupon where
  id := id
  code := c.code
  validFrom := c.validFrom
  validTo := c.validTo
  discount := c.discount
  scope := c.scope.withoutSubject
  usage := if c.scope = .limited then some ⟨0, c.total⟩ else none
  description := c.description
  imageUrl := c.imageUrl
  createdBy := c.createdBy
  createdAt := c.createdAt
  updatedAt := none

theorem stored_eq (c : NewCoupon) (id : CouponId) : c.stored id = c.coupon id := by
  obtain ⟨code, validFrom, validTo, discount, scope, total, description, imageUrl, createdBy, createdAt⟩ := c
  cases scope <;> rfl

end NewCoupon

end Couponry
