import Couponry.Proofs.Ledger.Effect

/-!
# What a use changes, entry by entry

A use of a coupon moves one counter. `Moved` says of every entry of a ledger what has become of it: the one
that keeps this counter has changed, and all others are as before. Two uses of different counters can
therefore change places.

What a redemption decides by can be told before anything is changed: `judge` names the counter that it
moves, or the reason for which there is none.
-/

namespace Couponry

/-- A value that is replaced by what it becomes. -/
theorem Table.get?_insert_of_stored {κ α : Type} [DecidableEq κ] {t : Table κ α} {k : κ} {a : α}
    (stored : t.get? k = some a) (f : α → α) (l : κ) :
    (t.insert k (f a)).get? l = if k = l then (t.get? l).map f else t.get? l := by
  rw [get?_insert]
  by_cases same : l = k
  · subst same
    rw [if_pos rfl, if_pos rfl, stored, Option.map_some]
  · rw [if_neg same, if_neg (Ne.symm same)]

/-- The coupon after a use at a time, with its counter at `u`. -/
def Coupon.countedTo (c : Coupon) (u : Usage) (time : Instant) : Coupon :=
  { c with usage := some u, updatedAt := some time }

namespace Ledger

/-- A counter has come to `u`, at that time, and nothing else has changed but the history. -/
structure Moved (l : Ledger) (key : CounterKey) (u : Usage) (time : Instant) (after : Ledger) : Prop where
  coupons : ∀ id, after.coupons.get? id =
    if key = .coupon id then (l.coupons.get? id).map fun c => c.countedTo u time else l.coupons.get? id
  userGrants : ∀ id userId, after.userGrants.get? (id, userId) =
    if key = .user id userId then (l.userGrants.get? (id, userId)).map fun g => { g with usage := u }
    else l.userGrants.get? (id, userId)
  productGrants : ∀ id productId, after.productGrants.get? (id, productId) =
    if key = .product id productId then
      (l.productGrants.get? (id, productId)).map fun g => { g with usage := u }
    else l.productGrants.get? (id, productId)
  codes : after.codes = l.codes
  lastCouponId : after.lastCouponId = l.lastCouponId
  failOnRedeem : after.failOnRedeem = l.failOnRedeem

/-- Two ledgers that differ at most in their histories. -/
structure SameGoods (l m : Ledger) : Prop where
  coupons : ∀ id, l.coupons.get? id = m.coupons.get? id
  userGrants : ∀ k, l.userGrants.get? k = m.userGrants.get? k
  productGrants : ∀ k, l.productGrants.get? k = m.productGrants.get? k
  codes : l.codes = m.codes
  lastCouponId : l.lastCouponId = m.lastCouponId
  failOnRedeem : l.failOnRedeem = m.failOnRedeem

theorem SameGoods.refl (l : Ledger) : SameGoods l l :=
  ⟨fun _ => rfl, fun _ => rfl, fun _ => rfl, rfl, rfl, rfl⟩

theorem SameGoods.symm {l m : Ledger} (same : SameGoods l m) : SameGoods m l :=
  ⟨fun id => (same.coupons id).symm, fun k => (same.userGrants k).symm,
    fun k => (same.productGrants k).symm, same.codes.symm, same.lastCouponId.symm,
    same.failOnRedeem.symm⟩

/-- The counter that is set is the only one that moves. -/
theorem Sets.moved {l m : Ledger} {v u : Usage} {time : Instant} {key : CounterKey}
    (sets : Sets l v u time key m) : l.Moved key u time m := by
  cases sets with
  | coupon id c stored usage =>
    exact {
      coupons := fun k => by
        simp only [CounterKey.coupon.injEq]
        exact Table.get?_insert_of_stored stored (fun c => c.countedTo u time) k
      userGrants := fun _ _ => by simp only [reduceCtorEq, if_false]
      productGrants := fun _ _ => by simp only [reduceCtorEq, if_false]
      codes := rfl
      lastCouponId := rfl
      failOnRedeem := rfl }
  | user id userId g stored usage =>
    exact {
      coupons := fun _ => by simp only [reduceCtorEq, if_false]
      userGrants := fun k user => by
        rw [Table.get?_insert_of_stored stored fun g => { g with usage := u }]
        simp only [CounterKey.user.injEq, Prod.mk.injEq]
      productGrants := fun _ _ => by simp only [reduceCtorEq, if_false]
      codes := rfl
      lastCouponId := rfl
      failOnRedeem := rfl }
  | product id productId g stored usage =>
    exact {
      coupons := fun _ => by simp only [reduceCtorEq, if_false]
      userGrants := fun _ _ => by simp only [reduceCtorEq, if_false]
      productGrants := fun k product => by
        rw [Table.get?_insert_of_stored stored fun g => { g with usage := u }]
        simp only [CounterKey.product.injEq, Prod.mk.injEq]
      codes := rfl
      lastCouponId := rfl
      failOnRedeem := rfl }

/-- Changes at different places can change places. -/
theorem map_comm_of_apart {α : Type} {here there : Prop} [Decidable here] [Decidable there]
    (apart : here → ¬ there) (f g : α → α) (entry : Option α) :
    (if there then (if here then entry.map f else entry).map g else if here then entry.map f else entry) =
      if here then (if there then entry.map g else entry).map f
      else if there then entry.map g else entry := by
  by_cases first : here
  · simp [first, apart first]
  · simp [first]

namespace Moved

variable {l m after after' : Ledger} {key other : CounterKey} {u v : Usage} {time time' : Instant}

/-- **Two uses of different counters can change places.** -/
theorem comm (apart : key ≠ other) (first : l.Moved key u time m) (second : m.Moved other v time' after)
    {m' : Ledger} (first' : l.Moved other v time' m') (second' : m'.Moved key u time after') :
    SameGoods after after' where
  coupons id := by
    rw [second.coupons, first.coupons, second'.coupons, first'.coupons]
    exact map_comm_of_apart (fun here there => apart (here.trans there.symm)) _ _ _
  userGrants k := by
    rw [second.userGrants, first.userGrants, second'.userGrants, first'.userGrants]
    exact map_comm_of_apart (fun here there => apart (here.trans there.symm)) _ _ _
  productGrants k := by
    rw [second.productGrants, first.productGrants, second'.productGrants, first'.productGrants]
    exact map_comm_of_apart (fun here there => apart (here.trans there.symm)) _ _ _
  codes := by rw [second.codes, first.codes, second'.codes, first'.codes]
  lastCouponId := by
    rw [second.lastCouponId, first.lastCouponId, second'.lastCouponId, first'.lastCouponId]
  failOnRedeem := by
    rw [second.failOnRedeem, first.failOnRedeem, second'.failOnRedeem, first'.failOnRedeem]

/-- Other counters, and the reasons for which there are none, stay as they are. -/
theorem usage (moved : l.Moved key u time m) (apart : other ≠ key) : m.usage other = l.usage other := by
  cases other with
  | coupon id => rw [Ledger.usage, moved.coupons, if_neg apart.symm, Ledger.usage]
  | user id userId => rw [Ledger.usage, moved.userGrants, if_neg apart.symm, Ledger.usage]
  | product id productId => rw [Ledger.usage, moved.productGrants, if_neg apart.symm, Ledger.usage]

/-- A code finds the same coupon, as far as it never changes. -/
theorem getByCode (moved : l.Moved key u time m) (code : String) :
    (m.getByCode code).map Coupon.definition = (l.getByCode code).map Coupon.definition := by
  rw [Ledger.getByCode, Ledger.getByCode, moved.codes]
  cases known : l.codes.get? code with
  | none => rfl
  | some id =>
    rw [Option.bind_some, Option.bind_some, moved.coupons]
    by_cases here : key = .coupon id
    · rw [if_pos here]
      cases l.coupons.get? id <;> rfl
    · rw [if_neg here]

/-- The history is no part of it. -/
theorem addRedemption (moved : l.Moved key u time m) (r : RedemptionRecord) :
    l.Moved key u time (m.addRedemption r) :=
  ⟨moved.coupons, moved.userGrants, moved.productGrants, moved.codes, moved.lastCouponId,
    moved.failOnRedeem⟩

end Moved

/-! ## What a redemption decides by -/

/-- The counter that a redemption moves, and the state in which it finds this counter. -/
structure Move where
  couponId : CouponId
  key : CounterKey
  usage : Usage

/-- What a redemption of a coupon would move, or why it fails. -/
def judge (l : Ledger) (c : Coupon) (userId : UserId) (productId : Option ProductId) :
    Except StoreError Move :=
  if l.failOnRedeem then .error (.database .poolTimedOut)
  else
    match counterKey c.scope c.id userId productId with
    | .error e => .error e
    | .ok key =>
      match l.usage key with
      | .error e => .error e
      | .ok u => if u.isExhausted then .error (.quotaExhausted c.id c.scope.name) else .ok ⟨c.id, key, u⟩

/-- The ledger after a counter was moved and the use recorded. -/
def carryOut (l : Ledger) (move : Move) (userId : UserId) (productId : Option ProductId) (time : Instant) :
    Ledger :=
  (l.setUsage move.key move.usage.bump time).addRedemption
    (l.nextRecord move.couponId userId productId time)

section Judge

variable {l m : Ledger} {c d : Coupon} {userId : UserId} {productId : Option ProductId} {time : Instant}

/-- A redemption does what it decides, and nothing else. -/
theorem redeem_of_judge (l : Ledger) (c : Coupon) (userId : UserId) (productId : Option ProductId)
    (time : Instant) :
    l.redeem c userId productId time =
      match l.judge c userId productId with
      | .error e => (.error e, l)
      | .ok move => (.ok (l.nextRecord move.couponId userId productId time),
          l.carryOut move userId productId time) := by
  unfold redeem judge
  cases l.failOnRedeem with
  | true => rfl
  | false =>
    cases counterKey c.scope c.id userId productId with
    | error e => rfl
    | ok key =>
      cases counted : l.usage key with
      | error e => simp only [Bool.false_eq_true, if_false, counted]
      | ok u => cases exhausted : u.isExhausted <;> simp [counted, exhausted, carryOut]

/-- What has been tested when a redemption has a counter to move. -/
theorem judge_eq_ok {move : Move} (judged : l.judge c userId productId = .ok move) :
    l.failOnRedeem = false ∧ counterKey c.scope c.id userId productId = .ok move.key ∧
      l.counter? move.key = some move.usage ∧ move.usage.isExhausted = false ∧ move.couponId = c.id := by
  unfold judge at judged
  cases switch : l.failOnRedeem with
  | true =>
    rw [switch] at judged
    cases judged
  | false =>
    rw [switch] at judged
    cases named : counterKey c.scope c.id userId productId with
    | error e =>
      rw [named] at judged
      cases judged
    | ok key =>
      cases counted : l.usage key with
      | error e => simp [named, counted] at judged
      | ok u =>
        cases exhausted : u.isExhausted with
        | true => simp [named, counted, exhausted] at judged
        | false =>
          simp only [named, counted, exhausted, Bool.false_eq_true, if_false, Except.ok.injEq] at judged
          subst judged
          exact ⟨rfl, rfl, usage_eq_ok_iff.1 counted, exhausted, rfl⟩

/-- A counter that has a use left is moved. -/
theorem judge_of_left {key : CounterKey} {u : Usage} (on : l.failOnRedeem = false)
    (named : counterKey c.scope c.id userId productId = .ok key) (counted : l.counter? key = some u)
    (left : u.isExhausted = false) : l.judge c userId productId = .ok ⟨c.id, key, u⟩ := by
  simp [judge, on, named, usage_eq_ok_iff.2 counted, left]

/-- What is decided about one counter does not depend on another. -/
theorem Moved.judge {key : CounterKey} {u : Usage} (moved : l.Moved key u time m)
    (same : d.definition = c.definition) (apart : counterKey c.scope c.id userId productId ≠ .ok key) :
    m.judge d userId productId = l.judge c userId productId := by
  have id : d.id = c.id := by
    show d.definition.id = c.definition.id
    rw [same]
  have scope : d.scope = c.scope := by
    show d.definition.scope = c.definition.scope
    rw [same]
  unfold Ledger.judge
  rw [moved.failOnRedeem, id, scope]
  cases named : counterKey c.scope c.id userId productId with
  | error e => rfl
  | ok other =>
    have others : m.usage other = l.usage other := moved.usage fun again => apart (again ▸ named)
    simp only [others]

end Judge

end Ledger

end Couponry
