import Couponry.Proofs.Ledger.Counter
import Couponry.Proofs.Sql.Shelf

/-!
# Changes of a shelf

What the store of coupons makes of a shelf, and how a change shows in its two views, `coupon?` and
`counter?`. The equations are those of a ledger.
-/

namespace Couponry.Sql

open Ledger (CounterKey)

/-- A use is left of a counter. -/
def hasLeft (u : Usage) : Bool :=
  decide (u.used < u.total)

theorem isExhausted_eq (u : Usage) : u.isExhausted = !hasLeft u := by
  rw [Usage.isExhausted, hasLeft, ← decide_not, decide_eq_decide]
  omega

/-- The coupon after one more use. -/
def raised (c : Coupon) (time : Instant) : Coupon :=
  { c with usage := c.usage.map Usage.bump, updatedAt := some time }

namespace Grant

/-- The grant of a new coupon. -/
def fresh (id : Int) (subject : Int) (c : NewCoupon) : Grant :=
  ⟨⟨id⟩, subject, .fresh c.total, c.createdBy, c.createdAt, none⟩

/-- The grant after one more use. -/
def raised (g : Grant) (time : Instant) : Grant :=
  { g with usage := g.usage.bump, updatedAt := some time }

end Grant

/-- The key of the counter in a grant. -/
def Holder.counterKey (h : Holder) (id : CouponId) (subject : Int) : CounterKey :=
  match h with
  | .user => .user id ⟨subject⟩
  | .product => .product id ⟨subject⟩

/-- A counter is in a coupon or in a grant. -/
theorem exists_counterKey (key : CounterKey) :
    (∃ id, key = .coupon id) ∨ ∃ h id subject, key = Holder.counterKey h id subject := by
  cases key with
  | coupon id => exact .inl ⟨id, rfl⟩
  | user id userId => exact .inr ⟨.user, id, userId.value, rfl⟩
  | product id productId => exact .inr ⟨.product, id, productId.value, rfl⟩

@[simp] theorem couponId_counterKey (h : Holder) (id : CouponId) (subject : Int) :
    (h.counterKey id subject).couponId = id := by
  cases h <;> rfl

theorem counterKey_inj {h k : Holder} {id id' : CouponId} {n n' : Int} :
    h.counterKey id n = k.counterKey id' n' ↔ h = k ∧ (id, n) = (id', n') := by
  cases h <;> cases k <;> simp [Holder.counterKey]

theorem counterKey_ne_coupon (h : Holder) (id id' : CouponId) (n : Int) :
    h.counterKey id n ≠ .coupon id' := by
  cases h <;> simp [Holder.counterKey]

namespace Shelf

variable (s : Shelf)

/-- The shelf with a coupon under the next id. -/
def addCoupon (c : NewCoupon) : Shelf :=
  { s with
    coupons := s.coupons ++ [c.stored ⟨s.lastCouponId + 1⟩]
    lastCouponId := s.lastCouponId + 1 }

/-- The shelf with other grants of one kind. -/
def setGrants (h : Holder) (gs : List Grant) : Shelf :=
  { s with grants := fun k => if k = h then gs else s.grants k }

/-- The shelf with one more grant. -/
def addGrant (h : Holder) (g : Grant) : Shelf :=
  s.setGrants h (s.grants h ++ [g])

/-- The shelf with one more redemption. -/
def addUse (r : RedemptionRecord) : Shelf :=
  { s with uses := s.uses ++ [r], lastUseId := s.lastUseId + 1 }

/-- The shelf without a coupon and its grants. -/
def removeCoupon (id : CouponId) : Shelf :=
  { s with
    coupons := s.coupons.filter fun c => !decide (c.id = id)
    grants := fun h => (s.grants h).filter fun g => !decide (g.couponId = id) }

/-- Raises the counter of a grant, if a use is left. -/
def raiseGrant (h : Holder) (id : CouponId) (subject : Int) (time : Instant) : Shelf :=
  s.setGrants h
    (Keyed.changeAt Grant.key (fun g => hasLeft g.usage) (·.raised time) (s.grants h) (id, subject))

/-- Raises a counter, if a use is left. -/
def raise (key : CounterKey) (time : Instant) : Shelf :=
  match key with
  | .coupon id =>
    { s with
      coupons :=
        Keyed.changeAt Coupon.id (fun c => c.usage.any hasLeft) (Sql.raised · time) s.coupons id }
  | .user id userId => s.raiseGrant .user id userId.value time
  | .product id productId => s.raiseGrant .product id productId.value time

/-- The shelf with a new coupon and its grant. -/
def create (c : NewCoupon) : Shelf :=
  match c.scope with
  | .limited => s.addCoupon c
  | .perUser userId => (s.addCoupon c).addGrant .user (.fresh (s.lastCouponId + 1) userId.value c)
  | .perProduct productId =>
    (s.addCoupon c).addGrant .product (.fresh (s.lastCouponId + 1) productId.value c)

/-- The counter with a key, if there is one. -/
def counter? : CounterKey → Option Usage
  | .coupon id => (s.coupon? id).bind Coupon.usage
  | .user id userId => (s.grant? .user id userId.value).map Grant.usage
  | .product id productId => (s.grant? .product id productId.value).map Grant.usage

/-- There is a row for the counter with a key. -/
def hasRow : CounterKey → Bool
  | .coupon id => (s.coupon? id).isSome
  | .user id userId => (s.grant? .user id userId.value).isSome
  | .product id productId => (s.grant? .product id productId.value).isSome

/-! ## What shows of a change -/

theorem counter?_grant (h : Holder) (id : CouponId) (subject : Int) :
    s.counter? (h.counterKey id subject) = (s.grant? h id subject).map Grant.usage := by
  cases h <;> rfl

theorem grant?_setGrants (h k : Holder) (gs : List Grant) (id : CouponId) (subject : Int) :
    (s.setGrants h gs).grant? k id subject =
      if k = h then Keyed.lookup Grant.key gs (id, subject) else s.grant? k id subject := by
  simp only [grant?, setGrants]
  split <;> rfl

section Create

variable (c : NewCoupon)

@[simp] theorem coupons_create :
    (s.create c).coupons = s.coupons ++ [c.stored ⟨s.lastCouponId + 1⟩] := by
  unfold create
  cases c.scope <;> rfl

@[simp] theorem uses_create : (s.create c).uses = s.uses := by
  unfold create
  cases c.scope <;> rfl

@[simp] theorem lastCouponId_create : (s.create c).lastCouponId = s.lastCouponId + 1 := by
  unfold create
  cases c.scope <;> rfl

@[simp] theorem lastUseId_create : (s.create c).lastUseId = s.lastUseId := by
  unfold create
  cases c.scope <;> rfl

variable {s}

theorem coupon?_create (fresh : s.coupon? ⟨s.lastCouponId + 1⟩ = none) (id : CouponId) :
    (s.create c).coupon? id =
      if id = ⟨s.lastCouponId + 1⟩ then some (c.stored ⟨s.lastCouponId + 1⟩) else s.coupon? id := by
  have named : (c.stored ⟨s.lastCouponId + 1⟩).id = ⟨s.lastCouponId + 1⟩ := rfl
  rw [coupon?, coupons_create]
  exact Keyed.lookup_append named fresh id

variable (free : ∀ key, key.couponId = ⟨s.lastCouponId + 1⟩ → s.counter? key = none)
include free

omit c in
theorem grant?_next (h : Holder) (subject : Int) :
    s.grant? h ⟨s.lastCouponId + 1⟩ subject = none := by
  have uncounted := free (h.counterKey ⟨s.lastCouponId + 1⟩ subject) (couponId_counterKey _ _ _)
  rw [counter?_grant] at uncounted
  exact Option.map_eq_none_iff.1 uncounted

theorem counter?_addGrant (h k : Holder) (subject : Int) (id : CouponId) (n : Int) :
    ((s.addCoupon c).addGrant h (.fresh (s.lastCouponId + 1) subject c)).counter?
        (k.counterKey id n) =
      if k.counterKey id n = h.counterKey ⟨s.lastCouponId + 1⟩ subject then some (.fresh c.total)
      else s.counter? (k.counterKey id n) := by
  have ungranted : Keyed.lookup Grant.key (s.grants h) (⟨s.lastCouponId + 1⟩, subject) = none :=
    grant?_next free h subject
  simp only [counter?_grant, addGrant, grant?_setGrants, counterKey_inj]
  by_cases same : k = h
  · subst same
    have named : (Grant.fresh (s.lastCouponId + 1) subject c).key = (⟨s.lastCouponId + 1⟩, subject) :=
      rfl
    simp only [if_true, true_and]
    rw [show (s.addCoupon c).grants k = s.grants k from rfl, Keyed.lookup_append named ungranted]
    split <;> rfl
  · rw [if_neg same, if_neg fun both => same both.1]
    rfl

/-- The grant of a new coupon has a key of its own. -/
theorem keys_create (distinct : ∀ h, ((s.grants h).map Grant.key).Nodup) (h : Holder) :
    (((s.create c).grants h).map Grant.key).Nodup := by
  have added (k : Holder) (subject : Int) :
      ((((s.addCoupon c).addGrant k (.fresh (s.lastCouponId + 1) subject c)).grants h).map
        Grant.key).Nodup := by
    simp only [addGrant, setGrants]
    split
    · next same =>
      exact Keyed.nodup_append rfl (distinct k) (grant?_next free k subject)
    · exact distinct h
  unfold create
  cases c.scope with
  | limited => exact distinct h
  | perUser userId => exact added .user userId.value
  | perProduct productId => exact added .product productId.value

/-- A new coupon brings exactly one counter, with no use taken. -/
theorem counter?_create (fresh : s.coupon? ⟨s.lastCouponId + 1⟩ = none) (key : CounterKey) :
    (s.create c).counter? key =
      if key = c.scope.counterKey ⟨s.lastCouponId + 1⟩ then some (.fresh c.total)
      else s.counter? key := by
  obtain ⟨id, rfl⟩ | ⟨k, id, n, rfl⟩ := exists_counterKey key
  · rw [counter?, coupon?_create c fresh, counter?]
    by_cases new : id = ⟨s.lastCouponId + 1⟩ <;> cases kind : c.scope <;>
      simp [CouponScope.counterKey, NewCoupon.stored, new, kind, fresh]
  · unfold create
    cases c.scope with
    | limited =>
      rw [CouponScope.counterKey, if_neg (counterKey_ne_coupon _ _ _ _), counter?_grant,
        counter?_grant]
      rfl
    | perUser userId => exact counter?_addGrant c free .user k userId.value id n
    | perProduct productId => exact counter?_addGrant c free .product k productId.value id n

end Create

theorem coupon?_removeCoupon (id k : CouponId) :
    (s.removeCoupon id).coupon? k = if k = id then none else s.coupon? k := by
  rw [coupon?, removeCoupon, Keyed.lookup_filter Coupon.id fun k => !decide (k = id)]
  by_cases gone : k = id <;> simp [gone, coupon?]

/-- The counters of a removed coupon go with it. -/
theorem counter?_removeCoupon (id : CouponId) (key : CounterKey) :
    (s.removeCoupon id).counter? key = if key.couponId = id then none else s.counter? key := by
  obtain ⟨k, rfl⟩ | ⟨h, k, n, rfl⟩ := exists_counterKey key
  · rw [counter?, coupon?_removeCoupon, CounterKey.couponId, counter?]
    split <;> rfl
  · have kept : (s.removeCoupon id).grant? h k n = if k = id then none else s.grant? h k n := by
      refine (Keyed.lookup_filter Grant.key (fun key => !decide (key.1 = id)) _ _).trans ?_
      by_cases gone : k = id <;> simp [gone, grant?]
    rw [counter?_grant, counter?_grant, couponId_counterKey, kept]
    split <;> rfl

section Raise

theorem uses_raise (key : CounterKey) (time : Instant) : (s.raise key time).uses = s.uses := by
  cases key <;> rfl

theorem lastCouponId_raise (key : CounterKey) (time : Instant) :
    (s.raise key time).lastCouponId = s.lastCouponId := by
  cases key <;> rfl

theorem lastUseId_raise (key : CounterKey) (time : Instant) :
    (s.raise key time).lastUseId = s.lastUseId := by
  cases key <;> rfl

/-- Raising a counter leaves the ids of the coupons. -/
theorem ids_raise (key : CounterKey) (time : Instant) :
    (s.raise key time).coupons.map Coupon.id = s.coupons.map Coupon.id := by
  cases key with
  | coupon id =>
    refine Keyed.keys_changeAt ?_ s.coupons id
    exact fun _ => rfl
  | user _ _ | product _ _ => rfl

/-- Raising a counter leaves the keys of the grants. -/
theorem keys_raise (key : CounterKey) (time : Instant) (h : Holder) :
    ((s.raise key time).grants h).map Grant.key = (s.grants h).map Grant.key := by
  have raised (k : Holder) (id : CouponId) (subject : Int) :
      ((s.raiseGrant k id subject time).grants h).map Grant.key = (s.grants h).map Grant.key := by
    simp only [raiseGrant, setGrants]
    split
    · next same =>
      rw [same]
      refine Keyed.keys_changeAt ?_ (s.grants k) (id, subject)
      exact fun _ => rfl
    · rfl
  cases key with
  | coupon id => rfl
  | user id userId => exact raised .user id userId.value
  | product id productId => exact raised .product id productId.value

variable {s} {u : Usage} (left : hasLeft u = true) (time : Instant)
include left

theorem coupon?_raise {id : CouponId} {c : Coupon} (stored : s.coupon? id = some c)
    (counted : c.usage = some u) (k : CouponId) :
    (s.raise (.coupon id) time).coupon? k =
      if k = id then some (Sql.raised c time) else s.coupon? k := by
  have passes : c.usage.any hasLeft = true := by rw [counted, Option.any_some, left]
  show Keyed.lookup Coupon.id (Keyed.changeAt Coupon.id _ _ s.coupons id) k = _
  refine Keyed.lookup_changeAt ?_ stored ?_ k
  · exact fun _ => rfl
  · exact passes

theorem counter?_raiseGrant {h : Holder} {id : CouponId} {subject : Int} {g : Grant}
    (granted : s.grant? h id subject = some g) (counted : g.usage = u) (key : CounterKey) :
    (s.raiseGrant h id subject time).counter? key =
      if key = h.counterKey id subject then some u.bump else s.counter? key := by
  obtain ⟨k, rfl⟩ | ⟨k, k', n, rfl⟩ := exists_counterKey key
  · rw [if_neg (counterKey_ne_coupon _ _ _ _).symm]
    rfl
  · simp only [counter?_grant, raiseGrant, grant?_setGrants, counterKey_inj]
    by_cases same : k = h
    · subst same
      have passes : hasLeft g.usage = true := by rw [counted, left]
      simp only [if_true, true_and]
      have found : Keyed.lookup Grant.key (Keyed.changeAt Grant.key (fun g => hasLeft g.usage)
          (·.raised time) (s.grants k) (id, subject)) (k', n) =
          if (k', n) = (id, subject) then some (g.raised time) else s.grant? k k' n := by
        refine Keyed.lookup_changeAt ?_ granted ?_ _
        · exact fun _ => rfl
        · exact passes
      rw [found]
      split
      · exact congrArg (fun u => some u.bump) counted
      · rfl
    · rw [if_neg same, if_neg fun both => same both.1]

/-- Raising a counter leaves all others as they are. -/
theorem counter?_raise {key : CounterKey} (counted : s.counter? key = some u) (k : CounterKey) :
    (s.raise key time).counter? k = if k = key then some u.bump else s.counter? k := by
  cases key with
  | coupon id =>
    obtain ⟨c, stored, counter⟩ := Option.bind_eq_some_iff.1 counted
    obtain ⟨k, rfl⟩ | ⟨h, k, n, rfl⟩ := exists_counterKey k
    · rw [counter?, coupon?_raise left time stored counter, counter?]
      by_cases same : k = id <;> simp [same, Sql.raised, counter]
    · rw [if_neg (counterKey_ne_coupon _ _ _ _), counter?_grant, counter?_grant]
      rfl
  | user id userId =>
    obtain ⟨g, granted, counter⟩ := Option.map_eq_some_iff.1 counted
    exact counter?_raiseGrant left time granted counter k
  | product id productId =>
    obtain ⟨g, granted, counter⟩ := Option.map_eq_some_iff.1 counted
    exact counter?_raiseGrant left time granted counter k

end Raise

/-! ## Nothing to raise -/

variable {s}

theorem setGrants_self (s : Shelf) (h : Holder) : s.setGrants h (s.grants h) = s := by
  have same : (fun k => if k = h then s.grants h else s.grants k) = s.grants := by
    funext k
    split
    · next k_eq => rw [k_eq]
    · rfl
  rw [setGrants, same]

theorem raiseGrant_of_none (sound : s.Sound) {h : Holder} {id : CouponId} {subject : Int}
    (none : ((s.grant? h id subject).map Grant.usage).any hasLeft = false) (time : Instant) :
    s.raiseGrant h id subject time = s := by
  have unchanged : Keyed.changeAt Grant.key (fun g => hasLeft g.usage) (·.raised time) (s.grants h)
      (id, subject) = s.grants h := by
    refine Keyed.changeAt_of_none (sound.keys h) (Eq.trans ?_ none)
    rw [grant?]
    cases Keyed.lookup Grant.key (s.grants h) (id, subject) <;> rfl
  rw [raiseGrant, unchanged, setGrants_self]

/-- Where no use is left, raising a counter changes nothing. -/
theorem raise_of_none (sound : s.Sound) {key : CounterKey}
    (none : (s.counter? key).any hasLeft = false) (time : Instant) : s.raise key time = s := by
  cases key with
  | coupon id =>
    have unchanged : Keyed.changeAt Coupon.id (fun c => c.usage.any hasLeft) (Sql.raised · time)
        s.coupons id = s.coupons := by
      refine Keyed.changeAt_of_none sound.ids (Eq.trans ?_ none)
      rw [counter?, coupon?]
      cases Keyed.lookup Coupon.id s.coupons id <;> rfl
    rw [raise, unchanged]
  | user id userId => exact raiseGrant_of_none sound none time
  | product id productId => exact raiseGrant_of_none sound none time

end Shelf

end Couponry.Sql
