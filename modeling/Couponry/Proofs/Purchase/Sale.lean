import Couponry.Proofs.Ledger.Spared
import Couponry.Proofs.Purchase.Turn

/-!
# Sales

Attempts to buy one product with one coupon, while nobody else uses or deletes the coupon, no call is
made to fail, and the clock stays in the window of the coupon. The check of the coupon and its
redemption are separate calls, so an attempt may be told that there is a use left and come too late.
The other way around nothing can happen: once an attempt was refused, the coupon is used up, and stays
so. `Fits` is this invariant, stage by stage.
-/

namespace Couponry

open Ledger (counterKey)

/-- A coupon, as it was created under an id, and the product it is to be used for. -/
structure Sale where
  coupon : NewCoupon
  id : CouponId
  productId : ProductId
  own : ∀ p, coupon.scope = .perProduct p → p = productId

namespace Sale

/-- The counter of the coupon. -/
def key (sale : Sale) : Ledger.CounterKey :=
  sale.coupon.scope.counterKey sale.id

/-- What the store keeps of the coupon. -/
def definition (sale : Sale) : Coupon :=
  (sale.coupon.stored sale.id).definition

/-- The attempt is to buy the product with the coupon, by the user whom it is for. -/
structure Admits (sale : Sale) (a : Attempt) : Prop where
  product : a.productId = sale.productId
  coupon : a.coupon = some sale.coupon.code
  user : ∀ u, sale.coupon.scope = .perUser u → a.caller.userId = u

/-- The coupon can be used at this time. -/
def Valid (sale : Sale) (now : Instant) : Prop :=
  sale.coupon.validFrom ≤ now ∧ now < sale.coupon.validTo

/-- The product is on offer, nothing is made to fail, and so many uses of the coupon are taken. -/
structure Open (sale : Sale) (s : Stores) (used : Nat) : Prop where
  redeems : s.ledger.failOnRedeem = false
  commits : s.catalog.failOnCommit = false
  offered : s.catalog.products.contains sale.productId = true
  alive : s.ledger.definition? sale.id = some sale.definition
  counter : s.ledger.counter? sale.key = some ⟨used, sale.coupon.total⟩

/-- An attempt may be refused with this failure. -/
structure Refusal (sale : Sale) (e : PurchaseError) : Prop where
  kind : e.kind = .failedPrecondition
  source : e = .couponNotUsable sale.coupon.code ∨ ∃ error, e = .coupon error

/-- What holds of an attempt at a stage when so many uses are taken. -/
def Fits (sale : Sale) (used : Nat) : Course → Prop
  | .start | .checking | .ready | .opened _ | .written _ _ | .redeemed _ _ _
  | .committed _ (some _) => True
  | .timed now => sale.Valid now
  | .granting c => c.definition = sale.definition ∧ c.scope ≠ .limited
  | .found _ _ c => c.definition = sale.definition
  | .redeeming _ _ c _ => c.definition = sale.definition
  | .refused _ e | .failed e => sale.Refusal e ∧ sale.coupon.total ≤ used
  | .committed _ none | .orphaned _ _ _ => False

section Facts

variable {sale : Sale} {s : Stores} {used : Nat}

/-- The counter of a redemption by whom the sale admits. -/
theorem named {a : Attempt} (admits : sale.Admits a) {c : Coupon}
    (same : c.definition = sale.definition) :
    counterKey c.scope c.id a.caller.userId (some a.productId) = .ok sale.key := by
  have scope : c.scope = sale.coupon.scope.kind := congrArg Coupon.scope same
  have id : c.id = sale.id := congrArg Coupon.id same
  rw [scope, id, key]
  cases kind : sale.coupon.scope with
  | limited => rfl
  | perUser u =>
    rw [admits.user u kind]
    rfl
  | perProduct p =>
    rw [admits.product, sale.own p kind]
    rfl

theorem active {c : Coupon} (same : c.definition = sale.definition) {now : Instant}
    (valid : sale.Valid now) : c.isActiveAt now = true := by
  have validFrom : c.validFrom = sale.coupon.validFrom := congrArg Coupon.validFrom same
  have validTo : c.validTo = sale.coupon.validTo := congrArg Coupon.validTo same
  rw [Coupon.isActiveAt, validFrom, validTo]
  exact decide_eq_true valid

/-- The coupon is found by its code. -/
theorem Open.getByCode (h : sale.Open s used) (wellFormed : s.ledger.WellFormed) :
    ∃ c, s.ledger.getByCode sale.coupon.code = .ok c ∧ c.definition = sale.definition ∧
      s.ledger.coupons.get? c.id = some c := by
  obtain ⟨c, found, stored, same, id⟩ := wellFormed.getByCode_of_definition h.alive
  exact ⟨c, found, same, id ▸ stored⟩

theorem Open.getProduct (h : sale.Open s used) :
    ∃ product, s.catalog.getProduct sale.productId = .ok product := by
  obtain ⟨product, found⟩ := Option.isSome_iff_exists.1 h.offered
  exact ⟨product, by rw [Catalog.getProduct, found]⟩

/-- Reading the counter refuses an attempt only if the coupon is used up. -/
theorem fits_judged (sale : Sale) (used : Nat) :
    sale.Fits used (Course.judged sale.coupon.code ⟨used, sale.coupon.total⟩) := by
  unfold Course.judged
  split
  · next exhausted =>
    exact ⟨⟨rfl, .inl rfl⟩, of_decide_eq_true exhausted⟩
  · trivial

/-! ## What each answer leads to -/

theorem fits_checked (h : sale.Open s used) {a : Attempt} (admits : sale.Admits a) {c : Coupon}
    (same : c.definition = sale.definition) (stored : s.ledger.coupons.get? c.id = some c)
    {now : Instant} (valid : sale.Valid now) :
    sale.Fits used (Course.checked sale.coupon.code now (.ok c)) := by
  have named := named admits same
  have counter := h.counter
  simp only [Course.checked, active same valid, if_true]
  cases scope : c.scope with
  | limited =>
    rw [scope] at named
    rw [← Except.ok.inj named, Ledger.counter?, stored, Option.bind_some] at counter
    simp only [Eligibility.limitedUsage, counter]
    exact fits_judged sale used
  | user => exact ⟨same, by rw [scope]; rintro ⟨⟩⟩
  | product => exact ⟨same, by rw [scope]; rintro ⟨⟩⟩

theorem fits_userGrant (h : sale.Open s used) {a : Attempt} (admits : sale.Admits a) {c : Coupon}
    (same : c.definition = sale.definition) (scope : c.scope = .user) (missing : String) :
    sale.Fits used (Course.granted sale.coupon.code missing
      (.ok ((s.ledger.userGrants.get? (c.id, a.caller.userId)).map UserGrant.usage))) := by
  have named := named admits same
  have counter := h.counter
  rw [scope] at named
  rw [← Except.ok.inj named, Ledger.counter?] at counter
  rw [counter]
  exact fits_judged sale used

theorem fits_productGrant (h : sale.Open s used) {a : Attempt} (admits : sale.Admits a) {c : Coupon}
    (same : c.definition = sale.definition) (scope : c.scope = .product) (missing : String) :
    sale.Fits used (Course.granted sale.coupon.code missing
      (.ok ((s.ledger.productGrants.get? (c.id, a.productId)).map ProductGrant.usage))) := by
  have named := named admits same
  have counter := h.counter
  rw [scope] at named
  rw [← Except.ok.inj named, Ledger.counter?] at counter
  rw [counter]
  exact fits_judged sale used

end Facts

/-! ## Progress -/

/-- What happens to the sale when the stores go from `s` to `s'` and a course from `x` to `y`. -/
structure Progress (sale : Sale) (s s' : Stores) (used used' : Nat) (x y : Course) : Prop where
  open_after : sale.Open s' used'
  fits : sale.Fits used' y
  grows : used ≤ used'
  uses : used' + x.redemption?.toList.length = used + y.redemption?.toList.length
  records : s'.ledger.redemptionCount sale.id + x.redemption?.toList.length =
    s.ledger.redemptionCount sale.id + y.redemption?.toList.length
  sold : s'.catalog.purchases.length + x.purchase?.toList.length =
    s.catalog.purchases.length + y.purchase?.toList.length

section Progress

variable {sale : Sale} {s s' : Stores} {used used' : Nat} {x y z : Course}

/-- A call that changes nothing. -/
theorem Progress.still (h : sale.Open s used) (fits : sale.Fits used y)
    (redemption : y.redemption? = x.redemption?) (purchase : y.purchase? = x.purchase?) :
    sale.Progress s s used used x y :=
  ⟨h, fits, Nat.le_refl _, by rw [redemption], by rw [redemption], by rw [purchase]⟩

/-- A call that changes nothing, between stages where nothing is held. -/
theorem Progress.bare (h : sale.Open s used) (before : x.Bare) (fits : sale.Fits used y)
    (after : y.Bare) : sale.Progress s s used used x y :=
  .still h fits (after.redemption.trans before.redemption.symm)
    (after.purchase.trans before.purchase.symm)

/-- What the host says in the window refuses nobody. -/
theorem Progress.host (h : sale.Progress s s' used used' x y) {a : Attempt} {host : HostAnswers}
    (valid : sale.Valid host.time) {c : HostCall} (go : Course.Step a y (.host c) (host c) z) :
    sale.Progress s s' used used' x z := by
  have time : sale.Valid (host .now) := valid
  cases go with
  | note | writeTime => exact h
  | checkTime => exact { h with fits := time }
  | redeemTime coupon tx p c =>
    have same : c.definition = sale.definition := h.fits
    unfold Course.clocked
    split
    · exact { h with fits := same }
    · next inactive => exact absurd (active same time) inactive

/-- The race for a use: who finds one left takes it, and who does not has come too late. -/
theorem Progress.redeem (h : sale.Open s used) {a : Attempt} (admits : sale.Admits a) {tx : TxId}
    {p : PurchaseRecord} {c : Coupon} {now : Instant} (same : c.definition = sale.definition)
    {answer : Except StoreError RedemptionRecord} {l : Ledger}
    (asked : s.ledger.redeem c a.caller.userId (some a.productId) now = (answer, l)) :
    ∃ used', sale.Progress s { s with ledger := l } used used' (.redeeming tx p c now)
      (Course.tookUse tx p answer) := by
  have named := named admits same
  have id : c.id = sale.id := congrArg Coupon.id same
  cases left : (Usage.mk used sale.coupon.total).isExhausted with
  | true =>
    cases asked.symm.trans (Ledger.redeem_of_exhausted h.redeems named h.counter left)
    exact ⟨used, h, ⟨⟨rfl, .inr ⟨_, rfl⟩⟩, of_decide_eq_true left⟩, Nat.le_refl _, rfl, rfl, rfl⟩
  | false =>
    cases answer with
    | error e => cases asked.symm.trans (Ledger.redeem_of_left h.redeems named h.counter left)
    | ok r =>
      obtain ⟨counter, alive, records, redeems⟩ := Ledger.redeem_counts named h.counter asked
      rw [id] at alive records
      exact ⟨used + 1, ⟨redeems.trans h.redeems, h.commits, h.offered, alive.trans h.alive, counter⟩,
        trivial, Nat.le_succ _, rfl, records, rfl⟩

theorem Progress.write (h : sale.Open s used) {tx : TxId} {p : NewPurchase}
    (product : p.productId = sale.productId) :
    sale.Progress s { s with catalog := (s.catalog.insertPurchase tx p).2 } used used (.opened tx)
      (Course.wrote tx (s.catalog.insertPurchase tx p).1) := by
  rw [Catalog.insertPurchase, product, h.offered]
  exact ⟨⟨h.redeems, h.commits, h.offered, h.alive, h.counter⟩, trivial, Nat.le_refl _, rfl, rfl, rfl⟩

theorem Progress.commit (h : sale.Open s used) {tx : TxId} {p : PurchaseRecord}
    {r : RedemptionRecord} (contains : s.catalog.Contains tx [p]) (code : String) :
    sale.Progress s { s with catalog := (s.catalog.commit tx).2 } used used (.redeemed tx p r)
      (Course.paidWith p r code (s.catalog.commit tx).1) := by
  rw [Catalog.commit, h.commits]
  refine ⟨⟨h.redeems, h.commits, h.offered, h.alive, h.counter⟩, trivial, Nat.le_refl _, rfl, rfl, ?_⟩
  show (s.catalog.purchases ++ s.catalog.written tx).length + 0 = _
  rw [contains.2, List.length_append]
  rfl

/-- **A call of an attempt** in an open sale. -/
theorem Progress.step {b : Buyer} (wellFormed : s.ledger.WellFormed) (h : sale.Open s used)
    (admits : sale.Admits b.attempt) (holds : x.Holds s b) (fits : sale.Fits used x)
    {host : HostAnswers} (valid : sale.Valid host.time) {c : SystemCall}
    (go : Course.Step b.attempt x c (s.serve host c).1 y) :
    ∃ used', sale.Progress s (s.serve host c).2 used used' x y := by
  obtain ⟨c₀, found, same, stored⟩ := h.getByCode wellFormed
  have code_of : ∀ {code}, b.attempt.coupon = some code → code = sale.coupon.code :=
    fun coupon => Option.some.inj (coupon.symm.trans admits.coupon)
  cases c with
  | host c => exact ⟨used, (Progress.still h fits rfl rfl).host valid go⟩
  | store c =>
    cases go with
    | check coupon now =>
      cases code_of coupon
      show ∃ used', sale.Progress s s used used' _ (Course.checked _ now (s.ledger.getByCode _))
      rw [found]
      exact ⟨used, .bare h ⟨rfl, rfl, rfl⟩ (fits_checked h admits same stored fits)
        (Course.bare_checked _ _ _)⟩
    | userGrant coupon scope =>
      cases code_of coupon
      exact ⟨used, .bare h ⟨rfl, rfl, rfl⟩ (fits_userGrant h admits fits.1 scope _)
        (Course.bare_granted _ _ _)⟩
    | productGrant coupon scope =>
      cases code_of coupon
      exact ⟨used, .bare h ⟨rfl, rfl, rfl⟩ (fits_productGrant h admits fits.1 scope _)
        (Course.bare_granted _ _ _)⟩
    | find coupon tx p =>
      cases code_of coupon
      show ∃ used', sale.Progress s s used used' _ (Course.foundAgain tx p (s.ledger.getByCode _))
      rw [found]
      exact ⟨used, .still h same rfl rfl⟩
    | redeem tx p c now => exact Progress.redeem h admits fits rfl
  | products c =>
    cases go with
    | lookup =>
      obtain ⟨product, offered⟩ := h.getProduct
      show ∃ used', sale.Progress s s used used' _
        (Course.lookedUp b.attempt.coupon (s.catalog.getProduct b.attempt.productId))
      rw [admits.product, admits.coupon, offered]
      exact ⟨used, .still h trivial rfl rfl⟩
    | begin =>
      exact ⟨used, ⟨h.redeems, h.commits, h.offered, h.alive, h.counter⟩, trivial, Nat.le_refl _,
        rfl, rfl, rfl⟩
    | write tx user product coupon => exact ⟨used, .write h (product.trans admits.product)⟩
    | rollback tx e =>
      exact ⟨used, ⟨h.redeems, h.commits, h.offered, h.alive, h.counter⟩, fits, Nat.le_refl _,
        rfl, rfl, rfl⟩
    | commit plain => cases plain.symm.trans admits.coupon
    | commitWith coupon tx p r => exact ⟨used, .commit h holds.2.2.1 _⟩

end Progress

end Sale

end Couponry
