import Couponry.Proofs.Sql.History
import Couponry.Proofs.Sql.Mirror

/-!
# The two stores agree

A ledger and a server that executes the statements of the store of coupons answer every call alike,
as long as they mirror each other, and they go on to do so. Only of a coupon that is redeemed
something has to be known: that its scope is the one under which it was issued, which a coupon has
that a store gave out.
-/

namespace Couponry.Sql

open Ledger (CounterKey)

namespace Shelf

/-- A coupon that is added under the next id violates no constraint, but perhaps the one on codes. -/
theorem Sound.addCoupon {s : Shelf} (sound : s.Sound) {c : NewCoupon} (valid : c.fault? = none)
    (fresh : s.coupon? ⟨s.lastCouponId + 1⟩ = none) : (s.addCoupon c).Sound where
  ids := Keyed.nodup_append rfl sound.ids fresh
  windows d shelved := by
    rcases List.mem_append.1 shelved with old | new
    · exact sound.windows d old
    · cases List.mem_singleton.1 new
      exact (NewCoupon.valid_of_sound valid).window
  counters d shelved u counted := by
    rcases List.mem_append.1 shelved with old | new
    · exact sound.counters d old u counted
    · have positive := (NewCoupon.valid_of_sound valid).total
      cases List.mem_singleton.1 new
      cases kind : c.scope <;> simp only [NewCoupon.stored, kind] at counted <;> cases counted
      exact Int.le_of_lt positive
  keys := sound.keys
  bounds := sound.bounds
  owned h g granted := by
    rw [show (s.addCoupon c).coupons = s.coupons ++ [_] from rfl, List.map_append]
    exact List.mem_append_left _ (sound.owned h g granted)
  uses := sound.uses

end Shelf

/-- The coupon, if it still exists, has the scope that is known of it. -/
def Known (l : Ledger) (coupon : Coupon) : Prop :=
  coupon.id.value ≤ l.lastCouponId ∧
    ∀ d, l.definition? coupon.id = some d → d.scope = coupon.scope

/-- What a call needs of the coupons that it is given. -/
def Informed (l : Ledger) : StoreCall → Prop
  | .redeem coupon _ _ _ => Known l coupon
  | _ => True

/-- On both sides a call gives the same, and after it they mirror each other. -/
def Agree (s : Shelf) (l : Ledger) (c : StoreCall) : Prop :=
  ∃ after, Gives (Coupons.answer c) s (Ledger.answer c l).1 after ∧
    Mirrors after (Ledger.answer c l).2

section Agreement

variable {s : Shelf} {l : Ledger} (m : Mirrors s l)
include m

/-! ## Coupons -/

/-- Under a code that is taken a coupon would be a second one. -/
theorem codes_taken {c : NewCoupon} (taken : l.codes.contains c.code = true) :
    ¬((s.addCoupon c).coupons.map Coupon.code).Nodup := by
  obtain ⟨id, known⟩ := Option.isSome_iff_exists.1 taken
  rw [m.codes_get?] at known
  obtain ⟨d, found, -⟩ := Option.map_eq_some_iff.1 known
  have named : d.code = c.code := Keyed.key_of_lookup found
  have before : c.code ∈ s.coupons.map Coupon.code :=
    named ▸ List.mem_map_of_mem (Keyed.mem_of_lookup found)
  intro distinct
  rw [show (s.addCoupon c).coupons = s.coupons ++ [_] from rfl, List.map_append,
    List.nodup_append] at distinct
  exact distinct.2.2 _ before _ (List.mem_singleton_self _) rfl

theorem agree_create (c : NewCoupon) : Agree s l (.createCoupon c) := by
  cases wrong : c.fault? with
  | some fault =>
    refine ⟨s, ?_, ?_⟩ <;> simp only [Ledger.answer, Ledger.createCoupon, wrong]
    · exact gives_create_of_fault wrong
    · exact m
  | none =>
    have added : (s.addCoupon c).Sound := m.sound.addCoupon wrong m.coupon?_next
    by_cases taken : l.codes.contains c.code
    · refine ⟨s, ?_, ?_⟩ <;> simp only [Ledger.answer, Ledger.createCoupon, wrong, taken, if_true]
      · refine gives_create_of_taken wrong ?_
        rw [added.violated?_database]
        exact if_neg (codes_taken m taken)
      · exact m
    · have free : l.codes.get? c.code = none := by simpa [Table.contains] using taken
      have created := m.create wrong free
      have codes := created.codes
      rw [Shelf.coupons_create] at codes
      have first : (s.addCoupon c).Fits := by
        rw [Shelf.Fits, added.violated?_database]
        exact if_pos codes
      refine ⟨s.create c, ?_, ?_⟩ <;>
        simp only [Ledger.answer, Ledger.createCoupon, wrong, taken, Bool.false_eq_true, if_false]
      · rw [m.lastCoupon]
        exact gives_create wrong first created.fits
      · exact created

theorem agree_delete (id : CouponId) : Agree s l (.deleteCoupon id) := by
  cases stored : l.coupons.get? id with
  | none =>
    have missing : s.coupon? id = none := by rw [← m.coupons, stored]
    refine ⟨s, ?_, ?_⟩ <;> simp only [Ledger.answer, Ledger.deleteCoupon, stored]
    · exact gives_delete_of_missing m.sound m.fits missing
    · exact m
  | some c =>
    have shelved : s.coupon? id = some c := by rw [← m.coupons, stored]
    have removed := m.remove stored
    refine ⟨s.removeCoupon id, ?_, ?_⟩ <;> simp only [Ledger.answer, Ledger.deleteCoupon, stored]
    · exact gives_delete m.sound shelved removed.fits
    · exact removed

theorem agree_getByCode (code : String) : Agree s l (.getByCode code) := by
  refine ⟨s, ?_, m⟩
  have answer : l.getByCode code = s.getByCode code := by
    rw [Ledger.getByCode, Shelf.getByCode, m.codes_get?]
    cases found : Keyed.lookup Coupon.code s.coupons code with
    | none => rfl
    | some c =>
      simp only [Option.map_some, Option.bind_some, m.stored (Keyed.mem_of_lookup found)]
  show Gives _ s (l.getByCode code) s
  rw [answer]
  exact gives_getByCode m.fits m.readable code

/-! ## Redemptions -/

theorem nextRecord_eq (id : CouponId) (userId : UserId) (productId : Option ProductId)
    (time : Instant) :
    l.nextRecord id userId productId time = s.nextUse id userId productId time := by
  rw [Ledger.nextRecord, m.lastUse, Shelf.nextUse]

theorem agree_insertRedemption (id : CouponId) (userId : UserId) (productId : Option ProductId)
    (time : Instant) : Agree s l (.insertRedemption id userId productId time) := by
  have recorded : Mirrors (s.addUse (s.nextUse id userId productId time))
      (l.addRedemption (s.nextUse id userId productId time)) := by
    refine m.record ?_
    rw [m.lastUse, Shelf.nextUse]
  refine ⟨s.addUse (s.nextUse id userId productId time), ?_, ?_⟩ <;>
    simp only [Ledger.answer, Ledger.insertRedemption, nextRecord_eq m]
  · exact onServer_insertRedemption none recorded.fits
  · exact recorded

/-- What a store says of a counter that is missing. -/
def missingAt : CounterKey → StoreError
  | .coupon id => .couponIdNotFound id
  | .user id userId => .grantNotFound id s!"user {userId.display}"
  | .product id productId => .grantNotFound id s!"product {productId.display}"

theorem usage_of_missing {key : CounterKey} (missing : s.hasRow key = false) :
    l.usage key = .error (missingAt key) := by
  cases key with
  | coupon id =>
    have gone : s.coupon? id = none := by simpa [Shelf.hasRow] using missing
    rw [Ledger.usage, m.coupons, gone]
    rfl
  | user id userId =>
    have gone : s.grant? .user id userId.value = none := by simpa [Shelf.hasRow] using missing
    rw [Ledger.usage, m.userGrant, gone]
    rfl
  | product id productId =>
    have gone : s.grant? .product id productId.value = none := by simpa [Shelf.hasRow] using missing
    rw [Ledger.usage, m.productGrant, gone]
    rfl

section Redeem

variable {coupon : Coupon} {userId : UserId} {productId : Option ProductId} {key : CounterKey}
  (named : Ledger.counterKey coupon.scope coupon.id userId productId = .ok key)
include named

/-- Where a coupon of the known scope exists, so does its counter. -/
theorem hasRow_eq (known : Known l coupon) : s.hasRow key = (s.counter? key).isSome := by
  cases key with
  | user _ _ | product _ _ => exact Option.isSome_map.symm
  | coupon id =>
    obtain ⟨own, limited⟩ := Ledger.key_of_counterKey named
    cases stored : s.coupon? id with
    | none => simp only [Shelf.hasRow, Shelf.counter?, stored, Option.bind_none, Option.isSome_none]
    | some c =>
      have alive : l.definition? id = some c.definition := by
        rw [Ledger.definition?, m.coupons, stored]
        rfl
      obtain ⟨other, u, of, counted⟩ := m.wellFormed.counter_exists id _ alive
      obtain ⟨d, alive', scope⟩ := m.wellFormed.counter_live other u counted
      rw [of, alive] at alive'
      cases alive'
      have issued : c.definition.scope = coupon.scope := known.2 _ (own ▸ alive)
      have same : other = .coupon id := by
        rw [issued, ← limited] at scope
        cases other <;> cases scope
        exact congrArg CounterKey.coupon of
      rw [← m.counters, ← same, counted, same]
      show (s.coupon? id).isSome = true
      rw [stored]
      rfl

omit m in
theorem missingCounter_eq :
    Coupons.missingCounter coupon.scope coupon.id userId productId = missingAt key := by
  revert named
  cases coupon.scope <;> cases productId <;> intro named <;> cases named <;> rfl

end Redeem

theorem agree_redeem {coupon : Coupon} (known : Known l coupon) (userId : UserId)
    (productId : Option ProductId) (time : Instant) :
    Agree s l (.redeem coupon userId productId time) := by
  cases named : Ledger.counterKey coupon.scope coupon.id userId productId with
  | error e =>
    have answer : l.redeem coupon userId productId time = _ := Ledger.redeem_of_unnamed m.on named
    refine ⟨s, ?_, ?_⟩ <;> simp only [Ledger.answer, answer]
    · exact gives_redeem_of_unnamed named
    · exact m
  | ok key =>
    cases counted : l.counter? key with
    | none =>
      have none : s.counter? key = none := by rw [← m.counters, counted]
      have missing : s.hasRow key = false := by rw [hasRow_eq m named known, none]; rfl
      have answer : l.redeem coupon userId productId time = _ :=
        Ledger.redeem_of_uncounted m.on named (usage_of_missing m missing)
      refine ⟨s, ?_, ?_⟩ <;> simp only [Ledger.answer, answer]
      · have gives : Gives (Coupons.redeem coupon userId productId time) s _ s :=
          gives_redeem_of_none m.sound named m.fits (by rw [none]; rfl)
        rw [missing, missingCounter_eq named] at gives
        exact gives
      · exact m
    | some u =>
      have some : s.counter? key = some u := by rw [← m.counters, counted]
      cases left : hasLeft u with
      | false =>
        have there : s.hasRow key = true := by rw [hasRow_eq m named known, some]; rfl
        have answer : l.redeem coupon userId productId time = _ :=
          Ledger.redeem_of_exhausted m.on named counted (by rw [isExhausted_eq, left]; rfl)
        refine ⟨s, ?_, ?_⟩ <;> simp only [Ledger.answer, answer]
        · have gives : Gives (Coupons.redeem coupon userId productId time) s _ s :=
            gives_redeem_of_none m.sound named m.fits (by rw [some, Option.any_some, left])
          rw [there] at gives
          exact gives
        · exact m
      | true =>
        let record : RedemptionRecord := s.nextUse coupon.id userId productId time
        have raised := m.raise counted left time
        have recorded : Mirrors ((s.raise key time).addUse record)
            ((l.setUsage key u.bump time).addRedemption record) := by
          refine raised.record ?_
          rw [Ledger.lastRedemptionId_setUsage, m.lastUse]
          rfl
        have answer : l.redeem coupon userId productId time = _ :=
          Ledger.redeem_of_left m.on named counted (by rw [isExhausted_eq, left]; rfl)
        have next : (s.raise key time).nextUse coupon.id userId productId time = record := by
          rw [Shelf.nextUse, Shelf.lastUseId_raise]
          rfl
        refine ⟨(s.raise key time).addUse record, ?_, ?_⟩ <;>
          simp only [Ledger.answer, answer, nextRecord_eq m]
        · have gives : Gives (Coupons.redeem coupon userId productId time) s _ _ :=
            gives_redeem m.sound named (by rw [some, Option.any_some, left]) raised.fits
              (by rw [next]; exact recorded.fits)
          rw [next] at gives
          exact gives
        · exact recorded

/-! ## Histories -/

theorem agree_listUsedByUser (userId : UserId) : Agree s l (.listUsedByUser userId) := by
  refine ⟨s, ?_, m⟩
  have answer : l.listUsedByUser userId = (s.history userId).map entry := by
    rw [Shelf.history_eq m.sound, List.map_filterMap, Ledger.listUsedByUser, m.redemptions]
    refine congrArg (fun f => List.filterMap f _) (funext fun r => ?_)
    rw [m.coupons, Shelf.withCoupon, Option.map_map]
    rfl
  show Gives _ s (Except.ok (l.listUsedByUser userId)) s
  rw [answer]
  exact gives_listUsedByUser m.sound m.fits userId

/-- **A call gives the same on both sides.** -/
theorem agree (c : StoreCall) (informed : Informed l c) : Agree s l c := by
  cases c with
  | createCoupon c => exact agree_create m c
  | deleteCoupon id => exact agree_delete m id
  | getByCode code => exact agree_getByCode m code
  | getUserGrant id userId =>
    refine ⟨s, ?_, m⟩
    show Gives _ s (Except.ok (l.userGrants.get? (id, userId))) s
    rw [m.userGrant]
    exact gives_getUserGrant m.sound m.fits id userId
  | getProductGrant id productId =>
    refine ⟨s, ?_, m⟩
    show Gives _ s (Except.ok (l.productGrants.get? (id, productId))) s
    rw [m.productGrant]
    exact gives_getProductGrant m.sound m.fits id productId
  | insertRedemption id userId productId time =>
    exact agree_insertRedemption m id userId productId time
  | redeem coupon userId productId time => exact agree_redeem m informed userId productId time
  | listUsedByUser userId => exact agree_listUsedByUser m userId

end Agreement

end Couponry.Sql
