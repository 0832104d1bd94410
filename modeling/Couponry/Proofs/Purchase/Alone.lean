import Couponry.Proofs.Coupon.Alone

/-!
# What a purchase does by itself

A purchase with the coupon component in the same process, run without anybody in between. The transaction
that it opens is ended whatever happens, so in the catalog only the numbers are used up; `Attempted`
lists the ways in which an attempt ends, with the stores after it and the counters that it has raised.
There is one lemma for each function of the saga, from the last to the first.
-/

namespace Couponry

open Couponry.Program

namespace Catalog

/-- The catalog after a transaction of which nothing is kept but the numbers it has used up. -/
def spend (c : Catalog) : Catalog :=
  { c with
    pending := c.pending.erase ⟨c.lastTx + 1⟩
    lastTx := c.lastTx + 1
    lastPurchaseId := c.lastPurchaseId + 1 }

/-- The catalog while a purchase is written and not yet committed. -/
def holding (c : Catalog) (record : PurchaseRecord) : Catalog :=
  { c with
    pending := (c.pending.insert ⟨c.lastTx + 1⟩ []).insert ⟨c.lastTx + 1⟩ [record]
    lastTx := c.lastTx + 1
    lastPurchaseId := c.lastPurchaseId + 1 }

/-- The catalog with one purchase more. -/
def sell (c : Catalog) (record : PurchaseRecord) : Catalog :=
  { c.spend with purchases := c.purchases ++ [record] }

section Transaction

variable {c : Catalog} {record : PurchaseRecord}

theorem insertPurchase_openTx {p : NewPurchase} {product : Product}
    (stocked : c.products.get? p.productId = some product) :
    c.openTx.2.insertPurchase ⟨c.lastTx + 1⟩ p =
      (.ok (p.record (c.lastPurchaseId + 1)), c.holding (p.record (c.lastPurchaseId + 1))) := by
  have contained : c.openTx.2.products.contains p.productId = true := by
    show (c.products.get? p.productId).isSome = true
    rw [stocked]
    rfl
  have nothing : c.openTx.2.written ⟨c.lastTx + 1⟩ = [] := (contains_openTx c).2
  rw [insertPurchase, if_pos contained, nothing]
  rfl

theorem discard_holding : (c.holding record).discard ⟨c.lastTx + 1⟩ = c.spend := by
  simp only [discard, holding, Table.erase_insert]
  rfl

theorem commit_holding_of_failing (failing : c.failOnCommit = true) :
    (c.holding record).commit ⟨c.lastTx + 1⟩ =
      (.error (.commitFailed "simulated commit failure"), c.spend) := by
  have still : (c.holding record).failOnCommit = true := failing
  rw [commit, if_pos still, discard_holding]

theorem commit_holding (on : c.failOnCommit = false) :
    (c.holding record).commit ⟨c.lastTx + 1⟩ = (.ok (), c.sell record) := by
  have off : ¬ (c.holding record).failOnCommit = true := by
    rw [holding, on]
    exact Bool.false_ne_true
  have kept : (c.holding record).written ⟨c.lastTx + 1⟩ = [record] := by
    simp [written, holding]
  rw [commit, if_neg off, discard_holding, kept]
  rfl

end Transaction

end Catalog

namespace Scene

/-- The record of a purchase of this product at a discounted price. -/
def recordOf (a : Attempt) (s : Stores) (product : Product) (discounted : Money) (now : Instant) :
    PurchaseRecord :=
  (Saga.purchaseOf a.caller product a.productId discounted a.coupon now).record
    (s.catalog.lastPurchaseId + 1)

/-- A use of the coupon with the code is taken, at a time when it is active. -/
structure Takes (script : HostScript) (a : Attempt) (code : String) (s : Stores) (c : Coupon)
    (l : Ledger) : Prop where
  given : a.coupon = some code
  found : s.ledger.getByCode code = .ok c
  redeemed : ∃ n r, c.isActiveAt (script n).time = true ∧
    s.ledger.redeem c a.caller.userId (some a.productId) (script n).time = (.ok r, l)

/-- The ways in which an attempt ends. -/
inductive Attempted (script : HostScript) (a : Attempt) (s : Stores) :
    Except PurchaseError PurchaseRecord → Stores → List Counter → Prop where
  /-- Nothing was begun. -/
  | refused (e : PurchaseError) (plain : e.isOrphan = false) (checks : List Counter)
      (only : ∀ c ∈ checks, ∃ eligible, c = .eligibilityChecks eligible) :
      Attempted script a s (.error e) s checks
  /-- The coupon was refused when it was to be redeemed. -/
  | rejected (e : PurchaseError) (plain : e.isOrphan = false) (eligible : Bool) (reason : Rejection) :
      Attempted script a s (.error e) { s with catalog := s.catalog.spend }
        [.eligibilityChecks eligible, .redemptionsRejected reason]
  | uncommitted (e : ProductStoreError) :
      Attempted script a s (.error (.store e)) { s with catalog := s.catalog.spend } []
  | orphaned (code : String) (c : Coupon) (l : Ledger) (takes : Takes script a code s c l)
      (failing : s.catalog.failOnCommit = true) (eligible : Bool) (reason : String) :
      Attempted script a s (.error (.orphanedRedemption code reason)) ⟨l, s.catalog.spend⟩
        [.eligibilityChecks eligible, .redemptions, .orphanedRedemptions]
  | bought (plain : a.coupon = none) (product : Product)
      (stocked : s.catalog.products.get? a.productId = some product) (now : Instant) :
      Attempted script a s (.ok (recordOf a s product product.price now))
        { s with catalog := s.catalog.sell (recordOf a s product product.price now) } []
  | boughtWith (code : String) (c : Coupon) (l : Ledger) (takes : Takes script a code s c l)
      (product : Product) (stocked : s.catalog.products.get? a.productId = some product)
      (now : Instant) (eligible : Bool) :
      Attempted script a s (.ok (recordOf a s product (c.discount.apply product.price) now))
        ⟨l, s.catalog.sell (recordOf a s product (c.discount.apply product.price) now)⟩
        [.eligibilityChecks eligible, .redemptions]

/-- An attempt that began in a scene has ended like this. -/
def Ends (script : HostScript) (a : Attempt) (t₀ : Scene) (o : Saga.Outcome) : Scene → Prop :=
  Does (Attempted script a) t₀ o.1

section Saga

variable {script : HostScript} {a : Attempt} {t₀ t : Scene} {record : PurchaseRecord} {l : Ledger}
  {raised : List Counter}

/-- The transaction that the attempt has opened. -/
def tx (t₀ : Scene) : TxId :=
  ⟨t₀.stores.catalog.lastTx + 1⟩

theorem ensures_rollback {Q : Saga.Outcome → Scene → Prop} {o : Saga.Outcome}
    (so : t₀.Leads ⟨l, t₀.stores.catalog.holding record⟩ raised t)
    (rest : ∀ t', t₀.Leads ⟨l, t₀.stores.catalog.spend⟩ raised t' → Q o t') :
    (Saga.rollback t₀.tx >>= fun _ => return o).Ensures (saga script) Q t := by
  refine ensures_bind.2 (ensures_products so fun t₁ rolled => ?_)
  have ended : (Catalog.answer (.rollback t₀.tx) (t₀.stores.catalog.holding record)).2 =
      t₀.stores.catalog.spend := Catalog.discard_holding
  rw [ended] at rolled
  exact rest t₁ rolled

/-- The commit of a purchase without a coupon. -/
theorem ensures_finish (plain : a.coupon = none) {product : Product}
    (stocked : t₀.stores.catalog.products.get? a.productId = some product) (now : Instant)
    (so : t₀.Leads ⟨t₀.stores.ledger,
      t₀.stores.catalog.holding (recordOf a t₀.stores product product.price now)⟩ [] t) :
    (Saga.finish .reserving a.caller a.productId none t₀.tx
      (recordOf a t₀.stores product product.price now)).Ensures (saga script) (Ends script a t₀) t := by
  refine ensures_products so fun t₁ done => ?_
  cases switch : t₀.stores.catalog.failOnCommit with
  | true =>
    simp only [Catalog.answer, tx, Catalog.commit_holding_of_failing switch] at done ⊢
    exact ⟨_, _, .uncommitted _, done⟩
  | false =>
    simp only [Catalog.answer, tx, Catalog.commit_holding switch] at done ⊢
    exact saga_advance done rfl fun t₂ moved => ⟨_, _, .bought plain product stocked now, moved⟩

/-- The commit of a purchase whose coupon is redeemed. -/
theorem ensures_finish_with {code : String} {c : Coupon} (takes : Takes script a code t₀.stores c l)
    {product : Product} (stocked : t₀.stores.catalog.products.get? a.productId = some product)
    (now : Instant) (eligible : Bool)
    (so : t₀.Leads ⟨l, t₀.stores.catalog.holding
      (recordOf a t₀.stores product (c.discount.apply product.price) now)⟩
      [.eligibilityChecks eligible, .redemptions] t) :
    (Saga.finish .redeeming a.caller a.productId (some code) t₀.tx
      (recordOf a t₀.stores product (c.discount.apply product.price) now)).Ensures (saga script)
      (Ends script a t₀) t := by
  refine ensures_products so fun t₁ done => ?_
  cases switch : t₀.stores.catalog.failOnCommit with
  | true =>
    simp only [Catalog.answer, tx, Catalog.commit_holding_of_failing switch] at done ⊢
    exact saga_count done fun t₂ counted => saga_log counted fun t₃ logged =>
      ⟨_, _, .orphaned code c l takes switch eligible _, logged⟩
  | false =>
    simp only [Catalog.answer, tx, Catalog.commit_holding switch] at done ⊢
    exact saga_advance done rfl fun t₂ moved =>
      ⟨_, _, .boughtWith code c l takes product stocked now eligible, moved⟩

/-- The redemption. The code was found before, and nobody has touched the ledger since. -/
theorem ensures_redeem {code : String} {c : Coupon} (given : a.coupon = some code)
    (found : t₀.stores.ledger.getByCode code = .ok c) {product : Product}
    (stocked : t₀.stores.catalog.products.get? a.productId = some product)
    (now : Instant) (eligible : Bool)
    (so : t₀.Leads ⟨t₀.stores.ledger, t₀.stores.catalog.holding
      (recordOf a t₀.stores product (c.discount.apply product.price) now)⟩
      [.eligibilityChecks eligible] t) :
    (Saga.redeem a.caller a.productId (some code) t₀.tx
      (recordOf a t₀.stores product (c.discount.apply product.price) now)).Ensures (saga script)
      (Ends script a t₀) t := by
  refine saga_advance so rfl fun t₁ moved => ?_
  have ledger : t₁.stores.ledger = t₀.stores.ledger := by rw [moved.stores]
  have apply : (Deployment.localClient (.redeem a.caller code (some a.productId))).Ensures (coupon script)
      (fun answer t₂ => ∃ s raised record, Applied script a.caller code (some a.productId) t₁.stores
        record s raised ∧ t₁.Leads s raised t₂ ∧
        answer = (record.map fun _ => ()).mapError .ofCoupon) t₁ := by
    refine (ensures_applyCoupon a.caller code (some a.productId) t₁).bind ?_
    rintro (e | r) t₂ ⟨s, raised, applied, leads⟩
    · exact ⟨s, raised, _, applied, leads, rfl⟩
    · exact ⟨s, raised, _, applied, leads, rfl⟩
  refine ensures_coupons apply ?_
  rintro _ t₂ ⟨_, _, _, applied, leads, rfl⟩
  have so' := moved.trans leads
  cases applied with
  | unknown e missing =>
    rw [ledger, found] at missing
    cases missing
  | inactive c' found' e =>
    rw [moved.stores] at so'
    exact ensures_rollback so' fun t₃ rolled => ⟨_, _, .rejected _ rfl eligible _, rolled⟩
  | refused c' found' e =>
    rw [moved.stores] at so'
    exact ensures_rollback so' fun t₃ rolled => ⟨_, _, .rejected _ rfl eligible _, rolled⟩
  | redeemed c' found' n active r l made =>
    rw [ledger] at found' made
    cases found.symm.trans found'
    rw [moved.stores] at so'
    exact ensures_finish_with ⟨given, found, n, r, active, made⟩ stocked now eligible so'

/-- The transaction: it is opened, and since the product is there the purchase is written. -/
theorem ensures_reserve (script : HostScript) {product : Product}
    (stocked : t₀.stores.catalog.products.get? a.productId = some product) (discounted : Money)
    (so : t₀.Leads t₀.stores raised t)
    (rest : ∀ now t', t₀.Leads ⟨t₀.stores.ledger, t₀.stores.catalog.holding
        (recordOf a t₀.stores product discounted now)⟩ raised t' →
      (Saga.redeem a.caller a.productId a.coupon t₀.tx
        (recordOf a t₀.stores product discounted now)).Ensures (saga script) (Ends script a t₀) t') :
    (Saga.reserve a.caller product a.productId discounted a.coupon).Ensures (saga script)
      (Ends script a t₀) t := by
  refine ensures_products so fun t₁ opened => saga_advance opened rfl fun t₂ moved => ?_
  refine saga_now moved fun n t₃ timed => ensures_products timed fun t₄ wrote => ?_
  have written : Catalog.answer (.insertPurchase ⟨t₀.stores.catalog.lastTx + 1⟩ (Saga.purchaseOf
      a.caller product a.productId discounted a.coupon (script n).time))
      (Catalog.answer .begin t₀.stores.catalog).2 =
      (.ok (recordOf a t₀.stores product discounted (script n).time),
        t₀.stores.catalog.holding (recordOf a t₀.stores product discounted (script n).time)) :=
    Catalog.insertPurchase_openTx stocked
  dsimp only at wrote ⊢
  rw [written] at wrote ⊢
  exact rest _ t₄ wrote

/-- The check, if there is a coupon. An attempt goes on only with the price of the coupon that was found. -/
theorem ensures_validate {product : Product}
    (stocked : t₀.stores.catalog.products.get? a.productId = some product)
    (so : t₀.Leads t₀.stores [] t) :
    (Saga.validate a.caller product a.productId a.coupon).Ensures (saga script) (Ends script a t₀) t := by
  cases given : a.coupon with
  | none =>
    refine saga_advance so rfl fun t₁ moved => ?_
    have reserve := ensures_reserve script stocked product.price moved
    rw [given] at reserve
    exact reserve fun now t₂ held => ensures_finish given stocked now held
  | some code =>
    have check : (Deployment.localClient
        (.check code (.enforceFor a.caller.userId (some a.productId)))).Ensures (coupon script)
        (fun answer t₁ => ∃ s raised shown, Checked code (.enforceFor a.caller.userId (some a.productId))
          t.stores shown s raised ∧ t.Leads s raised t₁ ∧ answer = shown.mapError .ofCoupon) t := by
      refine (ensures_retrieveCoupon code _ t).bind ?_
      rintro (e | view) t₁ ⟨s, raised, checked, leads⟩
      · exact ⟨s, raised, _, checked, leads, rfl⟩
      · exact ⟨s, raised, _, checked, leads, rfl⟩
    refine ensures_coupons check ?_
    rintro _ t₁ ⟨_, _, _, checked, leads, rfl⟩
    have so' := so.trans leads
    rw [so.stores] at checked
    cases checked with
    | failed e => exact ⟨_, _, .refused (.coupon (.ofCoupon e)) rfl [] (by simp), so'⟩
    | shown view unenforced => cases unenforced
    | judged view enforced rule =>
      obtain ⟨c, found, discount⟩ := rule
      show Ensures _ (if view.canUse then _ else _) _ _
      split
      · refine saga_advance so' rfl fun t₂ moved => ?_
        have reserve := ensures_reserve script stocked (c.discount.apply product.price) moved
        rw [given] at reserve
        rw [discount]
        exact reserve fun now t₃ held => ensures_redeem given found stocked now _ held
      · refine ⟨_, _, .refused (.couponNotUsable code) rfl _ ?_, so'⟩
        rintro _ (⟨⟩ | ⟨_, ⟨⟩⟩)
        exact ⟨_, rfl⟩

theorem ensures_attempt (so : t₀.Leads t₀.stores [] t) :
    (Saga.attempt a.caller a.productId a.coupon).Ensures (saga script) (Ends script a t₀) t := by
  refine ensures_products so fun t₁ looked => ?_
  cases stocked : t₀.stores.catalog.products.get? a.productId with
  | none =>
    simp only [Catalog.answer, Catalog.getProduct, stocked] at looked ⊢
    exact ⟨_, _, .refused (.productNotFound a.productId) rfl [] (by simp), looked⟩
  | some product =>
    simp only [Catalog.answer, Catalog.getProduct, stocked] at looked ⊢
    exact ensures_validate stocked looked

/-! ## The whole purchase -/

/-- The counters that an attempt raises in the end. -/
def closing : Except PurchaseError PurchaseRecord → List Counter
  | .ok _ => [.purchaseDurations, .purchasesCompleted]
  | .error e => [.purchaseDurations, .purchasesFailed e.kind]

/-- The whole purchase: an attempt, counted. -/
def Purchased (script : HostScript) (a : Attempt) (s : Stores)
    (result : Except PurchaseError PurchaseRecord) (s' : Stores) (raised : List Counter) : Prop :=
  ∃ within, Attempted script a s result s' within ∧
    raised = .purchaseAttempts :: within ++ closing result

/-- **A purchase ends in one of the ways of an attempt**, and counts itself at its beginning and at its
end. -/
theorem ensures_purchase (script : HostScript) (a : Attempt) (t : Scene) :
    a.program.Ensures (serve script) (Does (Purchased script a) t) t := by
  refine ensures_via.2 (saga_count (.refl t) fun t₁ counted => ?_)
  have so : t₁.Leads t₁.stores [] t₁ := .refl t₁
  refine (ensures_attempt so).bind ?_
  rintro ⟨result, state⟩ t₂ ⟨s, within, attempted, leads⟩
  rw [counted.stores] at attempted
  refine saga_count (counted.trans leads) fun t₃ timed => ?_
  have ended : ∀ {raised t'}, t.Leads s raised t' →
      raised = .purchaseAttempts :: within ++ closing result → Does (Purchased script a) t result t' :=
    fun leads same => ⟨s, _, ⟨within, attempted, same⟩, leads⟩
  cases result with
  | ok record =>
    exact saga_count timed fun t₄ done => saga_log done fun t₅ logged =>
      ended logged (by simp [closing])
  | error e =>
    refine ensures_bind.2 ?_
    unfold Saga.markFailed
    split <;> exact saga_log timed fun t₄ marked => saga_count marked fun t₅ done =>
      saga_log done fun t₆ logged => ended logged (by simp [closing])

end Saga

end Scene

end Couponry
