import Couponry.Proofs.Ledger.Later
import Couponry.Proofs.Ledger.Representation
import Couponry.Proofs.Sql.Calls

/-!
# Shelves and ledgers

The two stores side by side: a shelf mirrors a ledger if both store the same coupons, counters and
redemptions. What the ledger keeps well-formed is what the server checks, so the tables of a shelf
that mirrors a ledger violate no constraint, and the two go on to mirror each other.
-/

namespace Couponry

namespace Sql

open Ledger (CounterKey)

/-! ## Mirrors -/

/-- A shelf and a ledger store the same. -/
structure Mirrors (s : Shelf) (l : Ledger) : Prop where
  wellFormed : l.WellFormed
  /-- The ledger does not let redemptions fail. -/
  on : l.failOnRedeem = false
  coupons : ∀ id, l.coupons.get? id = s.coupon? id
  counters : ∀ key, l.counter? key = s.counter? key
  owned : l.Owned
  redemptions : l.redemptions = s.uses
  lastCoupon : l.lastCouponId = s.lastCouponId
  lastUse : l.lastRedemptionId = s.lastUseId
  ids : (s.coupons.map Coupon.id).Nodup
  keys : ∀ h, ((s.grants h).map Grant.key).Nodup

/-- Two stored grants are the same if their counters are, and the rest is known. -/
theorem eq_map_of_usage {α : Type} {stored : Option α} {shelved : Option Grant} {usage : α → Usage}
    (make : Usage → α) (own : ∀ a, stored = some a → make (usage a) = a)
    (counted : stored.map usage = shelved.map Grant.usage) :
    stored = shelved.map fun g => make g.usage := by
  cases stored with
  | none =>
    rw [Option.map_eq_none_iff.1 counted.symm]
    rfl
  | some a =>
    obtain ⟨g, granted, same⟩ := Option.map_eq_some_iff.1 counted.symm
    rw [granted, Option.map_some, same, own a rfl]

namespace Mirrors

theorem empty : Mirrors .empty .empty where
  wellFormed := .empty
  on := rfl
  coupons _ := rfl
  counters key := by cases key <;> rfl
  owned := .empty
  redemptions := rfl
  lastCoupon := rfl
  lastUse := rfl
  ids := .nil
  keys _ := .nil

variable {s : Shelf} {l : Ledger} (m : Mirrors s l)
include m

/-! ### What a mirror satisfies -/

theorem userGrant (id : CouponId) (userId : UserId) : l.userGrants.get? (id, userId) =
    (s.grant? .user id userId.value).map fun g => ⟨id, userId, g.usage⟩ := by
  refine eq_map_of_usage (fun u => ⟨id, userId, u⟩) (fun g found => ?_)
    (m.counters (.user id userId))
  obtain ⟨rfl, rfl⟩ := m.owned.users id userId g found
  rfl

theorem productGrant (id : CouponId) (productId : ProductId) : l.productGrants.get? (id, productId) =
    (s.grant? .product id productId.value).map fun g => ⟨id, productId, g.usage⟩ := by
  refine eq_map_of_usage (fun u => ⟨id, productId, u⟩) (fun g found => ?_)
    (m.counters (.product id productId))
  obtain ⟨rfl, rfl⟩ := m.owned.products id productId g found
  rfl

theorem stored {c : Coupon} (shelved : c ∈ s.coupons) : l.coupons.get? c.id = some c := by
  rw [m.coupons]
  exact Keyed.lookup_of_mem m.ids shelved

theorem definition? {c : Coupon} (shelved : c ∈ s.coupons) :
    l.definition? c.id = some c.definition := by
  rw [Ledger.definition?, m.stored shelved]
  rfl

theorem counter_of_coupon {c : Coupon} {u : Usage} (shelved : c ∈ s.coupons)
    (counted : c.usage = some u) : l.counter? (.coupon c.id) = some u := by
  rw [Ledger.counter?, m.stored shelved]
  exact counted

theorem counter_of_grant {h : Holder} {g : Grant} (granted : g ∈ s.grants h) :
    l.counter? (h.counterKey g.couponId g.subject) = some g.usage := by
  have found : s.grant? h g.couponId g.subject = some g := Keyed.lookup_of_mem (m.keys h) granted
  rw [m.counters, Shelf.counter?_grant, found]
  rfl

/-- A coupon of the ledger is on the shelf. -/
theorem shelved {id : CouponId} {d : Coupon} (alive : l.definition? id = some d) :
    ∃ c ∈ s.coupons, c.id = id ∧ c.definition = d := by
  obtain ⟨c, found, same⟩ := Option.map_eq_some_iff.1 alive
  rw [m.coupons] at found
  exact ⟨c, Keyed.mem_of_lookup found, Keyed.key_of_lookup found, same⟩

/-- Every coupon is as it was asked for. -/
theorem made {c : Coupon} (shelved : c ∈ s.coupons) :
    ∃ n : NewCoupon, n.fault? = none ∧ c.definition = (n.stored c.id).definition :=
  m.wellFormed.made c.id c.definition (m.definition? shelved)

theorem sound : s.Sound where
  ids := m.ids
  windows c shelved := by
    obtain ⟨n, sound, same⟩ := m.made shelved
    have opens : c.validFrom = n.validFrom := congrArg Coupon.validFrom same
    have ends : c.validTo = n.validTo := congrArg Coupon.validTo same
    rw [opens, ends]
    exact (NewCoupon.valid_of_sound sound).window
  counters c shelved u counted := (m.wellFormed.bounds _ u (m.counter_of_coupon shelved counted)).2.2
  keys := m.keys
  bounds h g granted := (m.wellFormed.bounds _ _ (m.counter_of_grant granted)).2.2
  owned h g granted := by
    obtain ⟨d, alive, -⟩ := m.wellFormed.counter_live _ _ (m.counter_of_grant granted)
    have owner : (h.counterKey g.couponId g.subject).couponId = g.couponId := by cases h <;> rfl
    rw [owner] at alive
    obtain ⟨c, shelved, same, -⟩ := m.shelved alive
    exact same ▸ List.mem_map_of_mem shelved
  uses := by
    rw [← m.redemptions, m.wellFormed.numbered, List.Nodup, List.pairwise_map]
    exact List.nodup_range.imp fun differ same => differ (by omega)

theorem codes : (s.coupons.map Coupon.code).Nodup := by
  have ids := m.ids
  rw [List.Nodup, List.pairwise_map] at ids ⊢
  refine ids.imp_of_mem fun {a b} first second differ same => ?_
  have known : ∀ {c}, c ∈ s.coupons → l.codes.get? c.code = some c.id := fun {c} shelved =>
    (m.wellFormed.codes _ _).2 ⟨c.definition, m.definition? shelved, rfl⟩
  have one := known first
  rw [same, known second] at one
  exact differ (Option.some.inj one).symm

theorem fits : s.Fits := by
  rw [Shelf.Fits, m.sound.violated?_database, if_pos m.codes]

theorem readable : s.Readable := by
  intro c shelved
  constructor
  · obtain ⟨n, sound, same⟩ := m.made shelved
    have rule : c.discount = n.discount := congrArg Coupon.discount same
    rw [rule]
    exact DiscountRule.ofParts_eq_ok_iff.2 ⟨(NewCoupon.valid_of_sound sound).discount, rfl⟩
  · intro u counted
    obtain ⟨d, alive, scope⟩ := m.wellFormed.counter_live _ u (m.counter_of_coupon shelved counted)
    rw [CounterKey.couponId, m.definition? shelved] at alive
    cases alive
    exact scope

/-- A code leads to the coupon that has it. -/
theorem codes_get? (code : String) :
    l.codes.get? code = (Keyed.lookup Coupon.code s.coupons code).map Coupon.id := by
  cases found : Keyed.lookup Coupon.code s.coupons code with
  | some c =>
    have named : c.code = code := Keyed.key_of_lookup found
    have alive := m.definition? (Keyed.mem_of_lookup found)
    exact (m.wellFormed.codes code c.id).2 ⟨c.definition, alive, named⟩
  | none =>
    cases known : l.codes.get? code with
    | none => rfl
    | some id =>
      obtain ⟨d, alive, named⟩ := (m.wellFormed.codes _ _).1 known
      obtain ⟨c, shelved, -, rfl⟩ := m.shelved alive
      have taken : c.code ∈ s.coupons.map Coupon.code := List.mem_map_of_mem shelved
      rw [show c.code = code from named] at taken
      exact absurd taken (Keyed.lookup_eq_none.1 found)

/-! ### One coupon more -/

/-- The id that the next coupon gets is on no shelf. -/
theorem coupon?_next : s.coupon? ⟨s.lastCouponId + 1⟩ = none := by
  have none : l.definition? l.nextCouponId = none := m.wellFormed.definition?_next
  rw [← m.lastCoupon, ← m.coupons]
  exact Option.map_eq_none_iff.1 none

theorem counter?_next (key : CounterKey) (next : key.couponId = ⟨s.lastCouponId + 1⟩) :
    s.counter? key = none := by
  rw [← m.counters]
  exact m.wellFormed.counter?_next key (by rw [next, Ledger.nextCouponId, m.lastCoupon])

theorem create {c : NewCoupon} (sound : c.fault? = none) (free : l.codes.get? c.code = none) :
    Mirrors (s.create c) (l.addCoupon c) where
  wellFormed := m.wellFormed.addCoupon sound free
  on := by rw [Ledger.failOnRedeem_addCoupon, m.on]
  coupons id := by
    rw [Ledger.coupons_addCoupon, Table.get?_insert, Shelf.coupon?_create c m.coupon?_next,
      Ledger.nextCouponId, m.lastCoupon, m.coupons]
  counters key := by
    rw [Ledger.counter?_addCoupon c m.wellFormed.counter?_next,
      Shelf.counter?_create c m.counter?_next m.coupon?_next, Ledger.nextCouponId, m.lastCoupon,
      m.counters]
  owned := m.owned.addCoupon c
  redemptions := by rw [Ledger.redemptions_addCoupon, m.redemptions, Shelf.uses_create]
  lastCoupon := by rw [Ledger.lastCouponId_addCoupon, m.lastCoupon, Shelf.lastCouponId_create]
  lastUse := by rw [Ledger.lastRedemptionId_addCoupon, m.lastUse, Shelf.lastUseId_create]
  ids := by
    rw [Shelf.coupons_create]
    exact Keyed.nodup_append rfl m.ids m.coupon?_next
  keys := Shelf.keys_create c m.counter?_next m.keys

/-! ### One coupon less -/

theorem remove {id : CouponId} {c : Coupon} (stored : l.coupons.get? id = some c) :
    Mirrors (s.removeCoupon id) (l.removeCoupon id c) where
  wellFormed := m.wellFormed.removeCoupon stored
  on := m.on
  coupons k := by
    rw [Ledger.removeCoupon, Table.get?_erase, Shelf.coupon?_removeCoupon, m.coupons]
  counters key := by
    rw [Ledger.counter?_removeCoupon, Shelf.counter?_removeCoupon, m.counters]
  owned := m.owned.removeCoupon id c
  redemptions := m.redemptions
  lastCoupon := m.lastCoupon
  lastUse := m.lastUse
  ids := Keyed.nodup_filter m.ids _
  keys h := Keyed.nodup_filter (m.keys h) _

/-! ### One use more -/

theorem raise {key : CounterKey} {u : Usage} (counted : l.counter? key = some u)
    (left : hasLeft u = true) (time : Instant) :
    Mirrors (s.raise key time) (l.setUsage key u.bump time) where
  wellFormed := m.wellFormed.setUsage counted (of_decide_eq_true left) time
  on := by rw [Ledger.failOnRedeem_setUsage, m.on]
  coupons k := by
    cases key with
    | coupon id =>
      obtain ⟨c, stored, counter⟩ := Option.bind_eq_some_iff.1 counted
      have shelved : s.coupon? id = some c := by rw [← m.coupons, stored]
      rw [Shelf.coupon?_raise left time shelved counter, raised, counter, Option.map_some,
        ← m.coupons]
      simp only [Ledger.setUsage, stored, Table.get?_insert]
    | user _ _ | product _ _ =>
      refine Eq.trans ?_ (m.coupons k)
      simp only [Ledger.setUsage]
      split <;> rfl
  counters k := by
    rw [Ledger.counter?_setUsage counted, Shelf.counter?_raise left time (m.counters key ▸ counted),
      m.counters]
  owned := m.owned.of_sets (Ledger.sets_setUsage counted u.bump time)
  redemptions := by rw [Ledger.redemptions_setUsage, m.redemptions, Shelf.uses_raise]
  lastCoupon := by rw [Ledger.lastCouponId_setUsage, m.lastCoupon, Shelf.lastCouponId_raise]
  lastUse := by rw [Ledger.lastRedemptionId_setUsage, m.lastUse, Shelf.lastUseId_raise]
  ids := by
    rw [Shelf.ids_raise]
    exact m.ids
  keys h := by
    rw [Shelf.keys_raise]
    exact m.keys h

theorem record {r : RedemptionRecord} (next : r.id = l.lastRedemptionId + 1) :
    Mirrors (s.addUse r) (l.addRedemption r) where
  wellFormed := m.wellFormed.addRedemption next
  on := m.on
  coupons := m.coupons
  counters key := by
    rw [Ledger.counter?_addRedemption, m.counters]
    cases key <;> rfl
  owned := ⟨m.owned.users, m.owned.products⟩
  redemptions := congrArg (· ++ [r]) m.redemptions
  lastCoupon := m.lastCoupon
  lastUse := by
    show r.id = s.lastUseId + 1
    rw [next, m.lastUse]
  ids := m.ids
  keys := m.keys

end Mirrors

end Sql

end Couponry
