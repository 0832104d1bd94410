import Couponry.Proofs.Ledger.WellFormed

/-!
# How a ledger is laid out

The invariant of the tables of a ledger in their own terms: codes and coupons are inverse to each
other, every grant is filed under its own key and belongs to a stored coupon, and the uses of a coupon
are counted where its scope says, and nowhere else. Most of it is read off `WellFormed`, which sees
all counters alike; that grants are filed under their own keys is kept beside it, call by call.
-/

namespace Couponry

open Couponry.Text

/-- The grant belongs under this key. -/
def UserGrant.Under (k : CouponId × UserId) (g : UserGrant) : Prop :=
  g.couponId = k.1 ∧ g.userId = k.2

/-- The grant belongs under this key. -/
def ProductGrant.Under (k : CouponId × ProductId) (g : ProductGrant) : Prop :=
  g.couponId = k.1 ∧ g.productId = k.2

namespace Ledger

/-! ## Grants under their own keys -/

/-- Every grant is stored under its own coupon and subject. -/
structure Owned (l : Ledger) : Prop where
  users : ∀ id userId g, l.userGrants.get? (id, userId) = some g → g.couponId = id ∧ g.userId = userId
  products : ∀ id productId g, l.productGrants.get? (id, productId) = some g →
    g.couponId = id ∧ g.productId = productId

namespace Owned

theorem empty : Owned .empty where
  users _ _ _ none := by cases none
  products _ _ _ none := by cases none

variable {l : Ledger} (h : l.Owned)
include h

theorem insertUser {k : CouponId × UserId} {g : UserGrant} (own : g.Under k) :
    Owned { l with userGrants := l.userGrants.insert k g } where
  users id userId := Table.forall_insert (P := UserGrant.Under) (fun k => h.users k.1 k.2) own (id, userId)
  products := h.products

theorem insertProduct {k : CouponId × ProductId} {g : ProductGrant} (own : g.Under k) :
    Owned { l with productGrants := l.productGrants.insert k g } where
  users := h.users
  products id productId :=
    Table.forall_insert (P := ProductGrant.Under) (fun k => h.products k.1 k.2) own (id, productId)

theorem addCoupon (c : NewCoupon) : (l.addCoupon c).Owned := by
  unfold Ledger.addCoupon
  cases c.scope with
  | limited => exact ⟨h.users, h.products⟩
  | perUser subject =>
    have added := h.insertUser (k := (l.nextCouponId, subject))
      (g := ⟨l.nextCouponId, subject, .fresh c.total⟩) ⟨rfl, rfl⟩
    exact ⟨added.users, added.products⟩
  | perProduct subject =>
    have added := h.insertProduct (k := (l.nextCouponId, subject))
      (g := ⟨l.nextCouponId, subject, .fresh c.total⟩) ⟨rfl, rfl⟩
    exact ⟨added.users, added.products⟩

theorem removeCoupon (id : CouponId) (c : Coupon) : (l.removeCoupon id c).Owned where
  users k userId :=
    Table.forall_filterKeys (P := UserGrant.Under) (fun k => h.users k.1 k.2) _ (k, userId)
  products k productId :=
    Table.forall_filterKeys (P := ProductGrant.Under) (fun k => h.products k.1 k.2) _ (k, productId)

theorem of_sets {l' : Ledger} {key : CounterKey} {v u : Usage} {time : Instant}
    (sets : Sets l v u time key l') : l'.Owned := by
  cases sets with
  | coupon => exact ⟨h.users, h.products⟩
  | user id userId g stored => exact h.insertUser (h.users id userId g stored)
  | product id productId g stored => exact h.insertProduct (h.products id productId g stored)

theorem effect {reply : Reply} {l' : Ledger} (e : Effect l reply l') : l'.Owned := by
  cases e with
  | nothing => exact h
  | created c => exact h.addCoupon c
  | deleted id c => exact h.removeCoupon id c
  | inserted r => exact ⟨h.users, h.products⟩
  | redeemed coupon r key u _ _ _ _ counted =>
    have moved := h.of_sets (sets_setUsage counted u.bump r.redeemedAt)
    exact ⟨moved.users, moved.products⟩

end Owned

theorem Reachable.owned {l : Ledger} (reached : l.Reachable) : l.Owned := by
  induction reached with
  | empty => exact .empty
  | exec _ command ih =>
    cases command with
    | call c => exact ih.effect (effect_answer _ c)
    | failOnRedeem fail => exact ⟨ih.users, ih.products⟩

/-! ## The tables -/

/-- How the tables of a ledger hang together. -/
structure Represented (l : Ledger) : Prop where
  /-- Codes and coupons are inverse to each other. -/
  codes : ∀ code id, l.codes.get? code = some id ↔ ∃ c, l.coupons.get? id = some c ∧ c.code = code
  own : ∀ id c, l.coupons.get? id = some c → c.id = id
  issued : ∀ id c, l.coupons.get? id = some c → 1 ≤ id.value ∧ id.value ≤ l.lastCouponId
  userGrants : ∀ id userId g, l.userGrants.get? (id, userId) = some g →
    g.couponId = id ∧ g.userId = userId ∧ ∃ c, l.coupons.get? id = some c
  productGrants : ∀ id productId g, l.productGrants.get? (id, productId) = some g →
    g.couponId = id ∧ g.productId = productId ∧ ∃ c, l.coupons.get? id = some c
  /-- A limited coupon counts its uses itself. -/
  limited : ∀ id c, l.coupons.get? id = some c → c.scope = .limited →
    (∃ u, c.usage = some u ∧ 0 < u.total) ∧ (∀ userId, l.userGrants.get? (id, userId) = none) ∧
      ∀ productId, l.productGrants.get? (id, productId) = none
  /-- A coupon for a user has one grant, which is for a user. -/
  user : ∀ id c, l.coupons.get? id = some c → c.scope = .user →
    c.usage = none ∧
      (∃ userId g, 0 < g.usage.total ∧
        ∀ other, l.userGrants.get? (id, other) = if other = userId then some g else none) ∧
      ∀ productId, l.productGrants.get? (id, productId) = none
  /-- A coupon for a product has one grant, which is for a product. -/
  product : ∀ id c, l.coupons.get? id = some c → c.scope = .product →
    c.usage = none ∧ (∀ userId, l.userGrants.get? (id, userId) = none) ∧
      ∃ productId g, 0 < g.usage.total ∧
        ∀ other, l.productGrants.get? (id, other) = if other = productId then some g else none
  sound : ∀ id c, l.coupons.get? id = some c →
    c.validFrom < c.validTo ∧ ¬OnlyWhiteSpace c.code ∧ c.discount.InRange

section Represented

variable {l : Ledger} {id : CouponId} {c : Coupon}

/-- A coupon has one counter, of its scope, and no other. -/
theorem WellFormed.counter_of_stored (h : l.WellFormed) (stored : l.coupons.get? id = some c) :
    ∃ key u, key.couponId = id ∧ key.scope = c.scope ∧ 0 < u.total ∧ l.counter? key = some u ∧
      ∀ other, other.couponId = id → other ≠ key → l.counter? other = none := by
  have alive := definition?_of_stored stored
  obtain ⟨key, u, of, counted⟩ := h.counter_exists id _ alive
  obtain ⟨d, alive', scope⟩ := h.counter_live key u counted
  rw [of] at alive'
  cases alive.symm.trans alive'
  refine ⟨key, u, of, scope.symm, (h.bounds key u counted).1, counted, ?_⟩
  intro other same different
  cases counted' : l.counter? other with
  | none => rfl
  | some v => exact absurd (h.counter_unique other key v u counted' counted (same.trans of.symm)) different

theorem userGrants_eq_none {userId : UserId} (uncounted : l.counter? (.user id userId) = none) :
    l.userGrants.get? (id, userId) = none :=
  Option.map_eq_none_iff.1 uncounted

theorem productGrants_eq_none {productId : ProductId}
    (uncounted : l.counter? (.product id productId) = none) :
    l.productGrants.get? (id, productId) = none :=
  Option.map_eq_none_iff.1 uncounted

theorem usage_eq_of_counter (stored : l.coupons.get? id = some c) :
    c.usage = l.counter? (.coupon id) := by
  rw [counter?, stored, Option.bind_some]

theorem WellFormed.represented (h : l.WellFormed) (owned : l.Owned) : l.Represented where
  codes code id := by
    rw [h.codes code id, definition?]
    constructor
    · rintro ⟨d, alive, named⟩
      obtain ⟨c, stored, rfl⟩ := Option.map_eq_some_iff.1 alive
      exact ⟨c, stored, named⟩
    · rintro ⟨c, stored, named⟩
      exact ⟨c.definition, by rw [stored, Option.map_some], named⟩
  own id c stored := by
    have own : c.definition.id = id := h.own (definition?_of_stored stored)
    exact own
  issued id c stored := h.issued id _ (definition?_of_stored stored)
  userGrants id userId g granted := by
    have counted : l.counter? (.user id userId) = some g.usage := by
      rw [counter?, granted, Option.map_some]
    obtain ⟨d, alive, -⟩ := h.counter_live _ _ counted
    obtain ⟨c, stored, -⟩ := Option.map_eq_some_iff.1 alive
    obtain ⟨coupon, user⟩ := owned.users id userId g granted
    exact ⟨coupon, user, c, stored⟩
  productGrants id productId g granted := by
    have counted : l.counter? (.product id productId) = some g.usage := by
      rw [counter?, granted, Option.map_some]
    obtain ⟨d, alive, -⟩ := h.counter_live _ _ counted
    obtain ⟨c, stored, -⟩ := Option.map_eq_some_iff.1 alive
    obtain ⟨coupon, product⟩ := owned.products id productId g granted
    exact ⟨coupon, product, c, stored⟩
  limited id c stored scope := by
    obtain ⟨key, u, rfl, kind, total, counted, alone⟩ := h.counter_of_stored stored
    rw [scope] at kind
    cases key <;> cases kind
    exact ⟨⟨u, (usage_eq_of_counter stored).trans counted, total⟩,
      fun userId => userGrants_eq_none (alone (.user _ userId) rfl (by simp)),
      fun productId => productGrants_eq_none (alone (.product _ productId) rfl (by simp))⟩
  user id c stored scope := by
    obtain ⟨key, u, rfl, kind, total, counted, alone⟩ := h.counter_of_stored stored
    rw [scope] at kind
    cases key <;> cases kind
    next id userId =>
    obtain ⟨g, granted, rfl⟩ := Option.map_eq_some_iff.1 counted
    refine ⟨(usage_eq_of_counter stored).trans (alone (.coupon id) rfl (by simp)), ⟨userId, g, total, ?_⟩,
      fun productId => productGrants_eq_none (alone (.product id productId) rfl (by simp))⟩
    intro other
    split
    · next same => rw [same]; exact granted
    · next different =>
      exact userGrants_eq_none (alone (.user id other) rfl fun same => different (by cases same; rfl))
  product id c stored scope := by
    obtain ⟨key, u, rfl, kind, total, counted, alone⟩ := h.counter_of_stored stored
    rw [scope] at kind
    cases key <;> cases kind
    next id productId =>
    obtain ⟨g, granted, rfl⟩ := Option.map_eq_some_iff.1 counted
    refine ⟨(usage_eq_of_counter stored).trans (alone (.coupon id) rfl (by simp)),
      fun userId => userGrants_eq_none (alone (.user id userId) rfl (by simp)), productId, g, total, ?_⟩
    intro other
    split
    · next same => rw [same]; exact granted
    · next different =>
      exact productGrants_eq_none
        (alone (.product id other) rfl fun same => different (by cases same; rfl))
  sound id c stored := by
    obtain ⟨new, sound, same⟩ := h.made id _ (definition?_of_stored stored)
    have valid := NewCoupon.valid_of_sound sound
    have code : c.code = new.code := congrArg Coupon.code same
    have validFrom : c.validFrom = new.validFrom := congrArg Coupon.validFrom same
    have validTo : c.validTo = new.validTo := congrArg Coupon.validTo same
    have discount : c.discount = new.discount := congrArg Coupon.discount same
    rw [code, validFrom, validTo, discount]
    exact ⟨valid.window, valid.code, valid.discount⟩

end Represented

/-- **Every ledger is laid out like this**, whatever calls led to it. -/
theorem represented_run (commands : List Command) : (empty.run commands).Represented :=
  let reached := Reachable.empty.run commands
  reached.wellFormed.represented reached.owned

end Ledger

end Couponry
