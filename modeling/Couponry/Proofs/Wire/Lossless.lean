import Couponry.Proofs.Wire.Stable
import Couponry.Wire.Purchase

/-!
# Wire formats lose nothing

Every record is stable, field by field, so a value that was accepted is written as a text that is
accepted again and gives the same value; `lossless` says so of all the types that are sent or kept.
-/

namespace Couponry

open Couponry.Json

namespace Wire

/-! ## Records -/

section Records

variable {depth : Nat}

instance : Stable (depth + 1) Identity :=
  .ofKept identity rfl (by decide) <|
    .seq <| .map <| kept_field fun _ => kept_field fun _ => rfl

instance : Stable (depth + 1) Usage :=
  .ofKept usage rfl (by decide) <|
    .seq <| .map <| kept_field fun _ => kept_field fun _ => rfl

instance : Stable (depth + 1) (Option Usage) := .option fun _ => Reading.noConfusion

instance : Stable (depth + 2) Coupon :=
  .ofKept coupon rfl (by decide) <|
    .seq <| .seq <| .seq <| .seq <| .seq <| .seq <| .seq <| .seq <| .seq <| .seq <| .seq <| .map <|
    kept_field fun _ => kept_field fun _ => kept_field fun _ => kept_field fun _ =>
    kept_field fun _ => kept_field fun _ => kept_field? fun _ => kept_field? fun _ =>
    kept_field? fun _ => kept_field fun _ => kept_field fun _ => kept_field? fun _ => rfl

instance : Stable (depth + 2) NewCoupon :=
  .ofKept newCoupon rfl (by decide) <|
    .seq <| .seq <| .seq <| .seq <| .seq <| .seq <| .seq <| .seq <| .seq <| .map <|
    kept_field fun _ => kept_field fun _ => kept_field fun _ => kept_field fun _ =>
    kept_field fun _ => kept_field fun _ => kept_field? fun _ => kept_field? fun _ =>
    kept_field fun _ => kept_field fun _ => rfl

instance : Stable (depth + 2) UserGrant :=
  .ofKept userGrant rfl (by decide) <|
    .seq <| .seq <| .map <| kept_field fun _ => kept_field fun _ => kept_field fun _ => rfl

instance : Stable (depth + 2) ProductGrant :=
  .ofKept productGrant rfl (by decide) <|
    .seq <| .seq <| .map <| kept_field fun _ => kept_field fun _ => kept_field fun _ => rfl

instance : Stable (depth + 1) RedemptionRecord :=
  .ofKept redemption rfl (by decide) <|
    .seq <| .seq <| .seq <| .seq <| .map <| kept_field fun _ => kept_field fun _ =>
    kept_field fun _ => kept_field? fun _ => kept_field fun _ => rfl

instance : Stable (depth + 1) UsedCoupon :=
  .ofKept usedCoupon rfl (by decide) <|
    .seq <| .seq <| .seq <| .map <| kept_field fun _ => kept_field? fun _ => kept_field? fun _ =>
    kept_field fun _ => rfl

instance : Stable (depth + 1) EligibilityRequest :=
  .ofKept eligibilityRequest rfl (by decide) <|
    .seq <| .seq <| .map <| kept_field? fun _ => kept_field? fun _ => kept_field fun _ => rfl

instance : Stable (depth + 2) CouponView :=
  .ofKept couponView rfl (by decide) <|
    .seq <| .seq <| .seq <| .seq <| .seq <| .seq <| .seq <| .seq <| .map <| kept_field fun _ =>
    kept_field fun _ => kept_field fun _ => kept_field fun _ => kept_field fun _ =>
    kept_field? fun _ => kept_field? fun _ => kept_field? fun _ => kept_field fun _ => rfl

instance : Stable (depth + 2) CreateCoupon :=
  .ofKept createCoupon rfl (by decide) <|
    .seq <| .seq <| .seq <| .seq <| .seq <| .seq <| .map <| kept_field fun _ => kept_field fun _ =>
    kept_field fun _ => kept_field fun _ => kept_field fun _ => kept_trailing? fun _ =>
    kept_trailing? fun _ => rfl

instance : Stable (depth + 1) CreatedCoupon :=
  .ofKept createdCoupon rfl (by decide) <|
    .seq <| .map <| kept_field fun _ => kept_field fun _ => rfl

instance : Stable (depth + 1) Product :=
  .ofKept product rfl (by decide) <|
    .seq <| .seq <| .seq <| .map <| kept_field fun _ => kept_field fun _ => kept_field fun _ =>
    kept_field fun _ => rfl

instance : Stable (depth + 1) NewPurchase :=
  .ofKept newPurchase rfl (by decide) <|
    .seq <| .seq <| .seq <| .seq <| .seq <| .seq <| .map <| kept_field fun _ => kept_field fun _ =>
    kept_field fun _ => kept_field fun _ => kept_field fun _ => kept_field? fun _ =>
    kept_field fun _ => rfl

instance : Stable (depth + 1) PurchaseRecord :=
  .ofKept purchaseRecord rfl (by decide) <|
    .seq <| .seq <| .seq <| .seq <| .seq <| .seq <| .seq <| .map <| kept_field fun _ =>
    kept_field fun _ => kept_field fun _ => kept_field fun _ => kept_field fun _ =>
    kept_field fun _ => kept_field? fun _ => kept_field fun _ => rfl

end Records

/-! ## Reading and writing -/

/-- What is written for a value that was accepted is accepted as that value, and as no other. -/
structure Lossless (α : Type) [Wire α] : Prop where
  again : ∀ {s : String} {a : α}, ofText α s = .ok a → ofText α (toText a) = .ok a
  injective : ∀ {s t : String} {a b : α}, ofText α s = .ok a → ofText α t = .ok b →
    toText a = toText b → a = b

/-- A value that was accepted is the value of some tree. -/
theorem read_of_ofText {α : Type} [Wire α] {s : String} {a : α} (accepted : ofText α s = .ok a) :
    ∃ r, read r = .ok a := by
  obtain ⟨b, given, last⟩ := bind_eq_ok accepted
  split at last
  · cases last
    exact ⟨_, given⟩
  · cases last

/-- A stable type loses nothing, since two levels are less than may be kept. -/
theorem Lossless.ofStable {α : Type} [Wire α] [∀ depth, Stable (depth + 2) α] : Lossless α := by
  have stable : Stable Reading.maxDepth α := inferInstanceAs (Stable (125 + 2) α)
  have again : ∀ {s : String} {a : α}, ofText α s = .ok a → ofText α (toText a) = .ok a := by
    intro s a accepted
    obtain ⟨r, given⟩ := read_of_ofText accepted
    exact (stable.faithful given).ofText
  refine ⟨again, ?_⟩
  intro s t a b first second same
  have back := again first
  rw [same, again second] at back
  cases back
  rfl

/-- **Nothing is lost** between reading and writing, whichever type is sent or kept. -/
theorem lossless :
    Lossless Coupon ∧ Lossless NewCoupon ∧ Lossless CouponView ∧ Lossless CreateCoupon ∧
    Lossless CreatedCoupon ∧ Lossless EligibilityRequest ∧ Lossless Usage ∧ Lossless UserGrant ∧
    Lossless ProductGrant ∧ Lossless RedemptionRecord ∧ Lossless UsedCoupon ∧ Lossless Product ∧
    Lossless NewPurchase ∧ Lossless PurchaseRecord ∧ Lossless Identity ∧ Lossless DiscountRule ∧
    Lossless CouponScope :=
  ⟨.ofStable, .ofStable, .ofStable, .ofStable, .ofStable, .ofStable, .ofStable, .ofStable, .ofStable,
    .ofStable, .ofStable, .ofStable, .ofStable, .ofStable, .ofStable, .ofStable, .ofStable⟩

example : (ofText UsedCoupon "[\"ONCE\",null,\"\",\"9999-12-31T23:59:60.5-00:01\"]").toOption =
    some ⟨"ONCE", none, some "", ⟨253402300859, 1500000000⟩⟩ := by
  decide +kernel

example : toText (⟨253402300859, 1500000000⟩ : Instant) = "\"+10000-01-01T00:00:60.500Z\"" := by
  decide +kernel

end Wire

end Couponry
