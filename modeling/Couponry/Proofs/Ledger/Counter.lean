import Couponry.Coupon.Ledger

/-!
# The counters of a ledger

A use of a coupon is counted in the coupon itself or in one of its grants. `counter?` reads all
three kinds of counters through one key, so that what an operation does to the counters is one
equation, whatever the scope. `definition?` is the other view, of what never changes about a coupon.
-/

namespace Couponry

/-- What never changes about a coupon: all but its counter and the time of its last use. -/
def Coupon.definition (c : Coupon) : Coupon :=
  { c with usage := none, updatedAt := none }

theorem Coupon.isActiveAt_iff {c : Coupon} {now : Instant} :
    c.isActiveAt now = true ↔ c.validFrom ≤ now ∧ now < c.validTo :=
  decide_eq_true_iff

/-- Coupons of one definition have one window. -/
theorem Coupon.isActiveAt_congr {c c' : Coupon} (same : c'.definition = c.definition) (now : Instant) :
    c'.isActiveAt now = c.isActiveAt now := by
  have validFrom : c'.validFrom = c.validFrom := show c'.definition.validFrom = c.definition.validFrom by rw [same]
  have validTo : c'.validTo = c.validTo := show c'.definition.validTo = c.definition.validTo by rw [same]
  rw [isActiveAt, validFrom, validTo, isActiveAt]

/-- The key of the counter that a new coupon starts with, once it has its id. -/
def CouponScope.counterKey (scope : CouponScope) (id : CouponId) : Ledger.CounterKey :=
  match scope with
  | .limited => .coupon id
  | .perUser userId => .user id userId
  | .perProduct productId => .product id productId

namespace Ledger

namespace CounterKey

/-- The coupon that a counter limits. -/
def couponId : CounterKey → CouponId
  | .coupon id => id
  | .user id _ => id
  | .product id _ => id

/-- The scope of the coupons that have such a counter. -/
def scope : CounterKey → ScopeKind
  | .coupon _ => .limited
  | .user _ _ => .user
  | .product _ _ => .product

/-- The counter that a use of a coupon of some scope is taken from. Where a product is counted by, one has
to be given. -/
def of? (id : CouponId) (userId : UserId) (productId : Option ProductId) : ScopeKind → Option CounterKey
  | .limited => some (.coupon id)
  | .user => some (.user id userId)
  | .product => productId.map (.product id)

end CounterKey

@[simp] theorem couponId_scopeKey (scope : CouponScope) (id : CouponId) :
    (scope.counterKey id).couponId = id := by
  cases scope <;> rfl

@[simp] theorem scope_scopeKey (scope : CouponScope) (id : CouponId) :
    (scope.counterKey id).scope = scope.kind := by
  cases scope <;> rfl

theorem toOption_counterKey (scope : ScopeKind) (id : CouponId) (userId : UserId)
    (productId : Option ProductId) :
    (counterKey scope id userId productId).toOption = CounterKey.of? id userId productId scope := by
  cases scope <;> cases productId <;> rfl

/-- A redemption counts a use where the scope says. -/
theorem counterKey_eq_ok_iff {scope : ScopeKind} {id : CouponId} {userId : UserId}
    {productId : Option ProductId} {key : CounterKey} :
    counterKey scope id userId productId = .ok key ↔
      CounterKey.of? id userId productId scope = some key := by
  rw [← toOption_counterKey]
  cases counterKey scope id userId productId <;> simp [Except.toOption]

/-- The counter of a redemption belongs to the coupon and the scope that were handed over. -/
theorem key_of_counterKey {scope : ScopeKind} {id : CouponId} {userId : UserId}
    {productId : Option ProductId} {key : CounterKey}
    (named : counterKey scope id userId productId = .ok key) :
    key.couponId = id ∧ key.scope = scope := by
  cases scope <;> cases productId <;> cases named <;> exact ⟨rfl, rfl⟩

/-- The counter with a key, if there is one. -/
def counter? (l : Ledger) : CounterKey → Option Usage
  | .coupon id => (l.coupons.get? id).bind Coupon.usage
  | .user id userId => (l.userGrants.get? (id, userId)).map UserGrant.usage
  | .product id productId => (l.productGrants.get? (id, productId)).map ProductGrant.usage

/-- What never changes about the coupon with an id, if there is one. -/
def definition? (l : Ledger) (id : CouponId) : Option Coupon :=
  (l.coupons.get? id).map Coupon.definition

theorem definition?_of_stored {l : Ledger} {id : CouponId} {c : Coupon}
    (stored : l.coupons.get? id = some c) : l.definition? id = some c.definition := by
  rw [definition?, stored, Option.map_some]

theorem usage_eq_ok_iff {l : Ledger} {key : CounterKey} {u : Usage} :
    l.usage key = .ok u ↔ l.counter? key = some u := by
  cases key with
  | coupon id =>
    cases stored : l.coupons.get? id with
    | none => simp [usage, counter?, stored]
    | some c => cases counters : c.usage <;> simp [usage, counter?, stored, counters]
  | user id userId =>
    cases stored : l.userGrants.get? (id, userId) <;> simp [usage, counter?, stored]
  | product id productId =>
    cases stored : l.productGrants.get? (id, productId) <;> simp [usage, counter?, stored]

/-! ## One more coupon -/

/-- The ledger after a coupon was removed under an id. -/
def removeCoupon (l : Ledger) (id : CouponId) (c : Coupon) : Ledger :=
  { l with
    coupons := l.coupons.erase id
    codes := l.codes.erase c.code
    userGrants := l.userGrants.filterKeys fun k => decide (k.1 ≠ id)
    productGrants := l.productGrants.filterKeys fun k => decide (k.1 ≠ id) }

/-- The id that the next coupon gets. -/
def nextCouponId (l : Ledger) : CouponId :=
  ⟨l.lastCouponId + 1⟩

section Create

variable (l : Ledger) (c : NewCoupon)

@[simp] theorem coupons_addCoupon :
    (l.addCoupon c).coupons = l.coupons.insert l.nextCouponId (c.stored l.nextCouponId) := by
  unfold addCoupon
  split <;> rfl

@[simp] theorem codes_addCoupon :
    (l.addCoupon c).codes = l.codes.insert c.code l.nextCouponId := by
  unfold addCoupon
  split <;> rfl

@[simp] theorem lastCouponId_addCoupon : (l.addCoupon c).lastCouponId = l.lastCouponId + 1 := by
  unfold addCoupon
  split <;> rfl

@[simp] theorem redemptions_addCoupon : (l.addCoupon c).redemptions = l.redemptions := by
  unfold addCoupon
  split <;> rfl

@[simp] theorem lastRedemptionId_addCoupon :
    (l.addCoupon c).lastRedemptionId = l.lastRedemptionId := by
  unfold addCoupon
  split <;> rfl

@[simp] theorem failOnRedeem_addCoupon : (l.addCoupon c).failOnRedeem = l.failOnRedeem := by
  unfold addCoupon
  split <;> rfl

/-- The definition of a new coupon is what was asked for. -/
theorem definition?_addCoupon (id : CouponId) :
    (l.addCoupon c).definition? id =
      if id = l.nextCouponId then some (c.stored l.nextCouponId).definition else l.definition? id := by
  rw [definition?, coupons_addCoupon, Table.get?_insert]
  split <;> rfl

variable {l}

/-- A new coupon brings exactly one counter, with no use taken, if its id is new. -/
theorem counter?_addCoupon (fresh : ∀ key, key.couponId = l.nextCouponId → l.counter? key = none)
    (key : CounterKey) :
    (l.addCoupon c).counter? key =
      if key = c.scope.counterKey l.nextCouponId then some (.fresh c.total) else l.counter? key := by
  cases key with
  | coupon id =>
    have uncounted : (l.coupons.get? l.nextCouponId).bind Coupon.usage = none :=
      fresh (.coupon _) rfl
    by_cases new : id = l.nextCouponId <;> cases kind : c.scope <;>
      simp [counter?, CouponScope.counterKey, NewCoupon.stored, new, kind, uncounted]
  | user id userId =>
    unfold addCoupon
    cases kind : c.scope <;> simp [counter?, CouponScope.counterKey, nextCouponId]
    split <;> rfl
  | product id productId =>
    unfold addCoupon
    cases kind : c.scope <;> simp [counter?, CouponScope.counterKey, nextCouponId]
    split <;> rfl

end Create

/-! ## One coupon less -/

/-- The counters of a removed coupon go with it. -/
theorem counter?_removeCoupon (l : Ledger) (id : CouponId) (c : Coupon) (key : CounterKey) :
    (l.removeCoupon id c).counter? key = if key.couponId = id then none else l.counter? key := by
  cases key <;> simp only [counter?, removeCoupon, CounterKey.couponId, Table.get?_erase,
    Table.get?_filterKeys] <;> split <;> simp_all

theorem definition?_removeCoupon (l : Ledger) (id : CouponId) (c : Coupon) (k : CouponId) :
    (l.removeCoupon id c).definition? k = if k = id then none else l.definition? k := by
  simp only [definition?, removeCoupon, Table.get?_erase]
  split <;> rfl

/-! ## One use more -/

section SetUsage

variable {l : Ledger} {key : CounterKey} {u v : Usage}

@[simp] theorem codes_setUsage (time : Instant) : (l.setUsage key u time).codes = l.codes := by
  unfold setUsage
  split <;> split <;> rfl

@[simp] theorem lastCouponId_setUsage (time : Instant) :
    (l.setUsage key u time).lastCouponId = l.lastCouponId := by
  unfold setUsage
  split <;> split <;> rfl

@[simp] theorem redemptions_setUsage (time : Instant) :
    (l.setUsage key u time).redemptions = l.redemptions := by
  unfold setUsage
  split <;> split <;> rfl

@[simp] theorem lastRedemptionId_setUsage (time : Instant) :
    (l.setUsage key u time).lastRedemptionId = l.lastRedemptionId := by
  unfold setUsage
  split <;> split <;> rfl

@[simp] theorem failOnRedeem_setUsage (time : Instant) :
    (l.setUsage key u time).failOnRedeem = l.failOnRedeem := by
  unfold setUsage
  split <;> split <;> rfl

/-- A counter that has come to `v` is set where it is kept: in the coupon, or in one of its grants. -/
inductive Sets (l : Ledger) (v u : Usage) (time : Instant) : CounterKey → Ledger → Prop where
  | coupon (id : CouponId) (c : Coupon) (stored : l.coupons.get? id = some c) (usage : c.usage = some v) :
      Sets l v u time (.coupon id)
        { l with coupons := l.coupons.insert id { c with usage := some u, updatedAt := some time } }
  | user (id : CouponId) (userId : UserId) (g : UserGrant)
      (stored : l.userGrants.get? (id, userId) = some g) (usage : g.usage = v) :
      Sets l v u time (.user id userId)
        { l with userGrants := l.userGrants.insert (id, userId) { g with usage := u } }
  | product (id : CouponId) (productId : ProductId) (g : ProductGrant)
      (stored : l.productGrants.get? (id, productId) = some g) (usage : g.usage = v) :
      Sets l v u time (.product id productId)
        { l with productGrants := l.productGrants.insert (id, productId) { g with usage := u } }

theorem sets_setUsage (counted : l.counter? key = some v) (u : Usage) (time : Instant) :
    Sets l v u time key (l.setUsage key u time) := by
  cases key with
  | coupon id =>
    obtain ⟨c, stored, usage⟩ := Option.bind_eq_some_iff.1 counted
    simp only [setUsage, stored]
    exact .coupon id c stored usage
  | user id userId =>
    obtain ⟨g, stored, usage⟩ := Option.map_eq_some_iff.1 counted
    simp only [setUsage, stored]
    exact .user id userId g stored usage
  | product id productId =>
    obtain ⟨g, stored, usage⟩ := Option.map_eq_some_iff.1 counted
    simp only [setUsage, stored]
    exact .product id productId g stored usage

/-- Setting a counter leaves all others as they are. -/
theorem counter?_setUsage (counted : l.counter? key = some v) (time : Instant) (k : CounterKey) :
    (l.setUsage key u time).counter? k = if k = key then some u else l.counter? k := by
  cases key with
  | coupon id =>
    obtain ⟨c, stored, -⟩ := Option.bind_eq_some_iff.1 counted
    cases k <;> simp [counter?, setUsage, stored]
    split <;> rfl
  | user id userId =>
    obtain ⟨g, stored, -⟩ := Option.map_eq_some_iff.1 counted
    cases k <;> simp [counter?, setUsage, stored]
    split <;> rfl
  | product id productId =>
    obtain ⟨g, stored, -⟩ := Option.map_eq_some_iff.1 counted
    cases k <;> simp [counter?, setUsage, stored]
    split <;> rfl

/-- Setting a counter changes no definition. -/
@[simp] theorem definition?_setUsage (time : Instant) (id : CouponId) :
    (l.setUsage key u time).definition? id = l.definition? id := by
  unfold setUsage
  split
  · split
    · next k c stored =>
      rw [definition?, Table.get?_insert]
      split
      · next same => subst same; simp [definition?, stored, Coupon.definition]
      · rfl
    · rfl
  · split <;> rfl
  · split <;> rfl

end SetUsage

@[simp] theorem counter?_addRedemption (l : Ledger) (r : RedemptionRecord) (key : CounterKey) :
    (l.addRedemption r).counter? key = l.counter? key := by
  cases key <;> rfl

/-- The switch is no counter. -/
@[simp] theorem counter?_failOnRedeem (l : Ledger) (fail : Bool) (key : CounterKey) :
    { l with failOnRedeem := fail }.counter? key = l.counter? key := by
  cases key <;> rfl

@[simp] theorem definition?_addRedemption (l : Ledger) (r : RedemptionRecord) (id : CouponId) :
    (l.addRedemption r).definition? id = l.definition? id := rfl

end Ledger

end Couponry
