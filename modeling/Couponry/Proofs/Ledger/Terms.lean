import Couponry.Proofs.Ledger.Effect

/-!
# The terms of coupons

What only an admin may change: which coupons and grants there are, and all that stands in them but the
uses that were taken and the time of the last use. Taking a use leaves the terms as they are.
-/

namespace Couponry

/-- A counter without the uses that were taken. -/
def Usage.terms (u : Usage) : Usage :=
  .fresh u.total

/-- A coupon without its uses and the time of the last one. -/
def Coupon.terms (c : Coupon) : Coupon :=
  { c with usage := c.usage.map Usage.terms, updatedAt := none }

/-- A grant for a user without its uses. -/
def UserGrant.terms (g : UserGrant) : UserGrant :=
  { g with usage := g.usage.terms }

/-- A grant for a product without its uses. -/
def ProductGrant.terms (g : ProductGrant) : ProductGrant :=
  { g with usage := g.usage.terms }

namespace Ledger

/-- The same coupons and grants, on the same terms. -/
structure SameTerms (l l' : Ledger) : Prop where
  codes : ∀ code, l'.codes.get? code = l.codes.get? code
  coupons : ∀ id, (l'.coupons.get? id).map Coupon.terms = (l.coupons.get? id).map Coupon.terms
  userGrants : ∀ key,
    (l'.userGrants.get? key).map UserGrant.terms = (l.userGrants.get? key).map UserGrant.terms
  productGrants : ∀ key,
    (l'.productGrants.get? key).map ProductGrant.terms = (l.productGrants.get? key).map ProductGrant.terms

namespace SameTerms

variable {l l' l'' : Ledger}

theorem refl (l : Ledger) : SameTerms l l :=
  ⟨fun _ => rfl, fun _ => rfl, fun _ => rfl, fun _ => rfl⟩

theorem trans (first : SameTerms l l') (second : SameTerms l' l'') : SameTerms l l'' where
  codes code := (second.codes code).trans (first.codes code)
  coupons id := (second.coupons id).trans (first.coupons id)
  userGrants key := (second.userGrants key).trans (first.userGrants key)
  productGrants key := (second.productGrants key).trans (first.productGrants key)

/-- A use that is taken is no change of terms. -/
theorem of_sets {key : CounterKey} {u : Usage} {time : Instant} (sets : Sets l u u.bump time key l') :
    SameTerms l l' := by
  cases sets with
  | coupon id c stored usage =>
    have same : { c with usage := some u.bump, updatedAt := some time }.terms = c.terms := by
      rw [Coupon.terms, Coupon.terms, usage]
      rfl
    exact ⟨fun _ => rfl, Table.map_get?_insert stored same, fun _ => rfl, fun _ => rfl⟩
  | user id userId g stored usage =>
    cases usage
    exact ⟨fun _ => rfl, fun _ => rfl, Table.map_get?_insert stored rfl, fun _ => rfl⟩
  | product id productId g stored usage =>
    cases usage
    exact ⟨fun _ => rfl, fun _ => rfl, fun _ => rfl, Table.map_get?_insert stored rfl⟩

/-- A redemption takes a use, and changes no terms. -/
theorem redeem (l : Ledger) (coupon : Coupon) (userId : UserId) (productId : Option ProductId)
    (time : Instant) : SameTerms l (l.redeem coupon userId productId time).2 := by
  cases result : l.redeem coupon userId productId time with
  | mk answer after =>
    cases answer with
    | error e =>
      rw [redeem_eq_error result]
      exact refl l
    | ok r =>
      obtain ⟨-, -, -, -, key, u, -, counted, -, rfl⟩ := redeem_eq_ok result
      have moved := of_sets (sets_setUsage counted u.bump time)
      exact ⟨moved.codes, moved.coupons, moved.userGrants, moved.productGrants⟩

end SameTerms

end Ledger

end Couponry
