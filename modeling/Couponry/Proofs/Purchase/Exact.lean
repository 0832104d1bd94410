import Couponry.Proofs.Ledger.Terms
import Couponry.Proofs.Ledger.WellFormed
import Couponry.Proofs.Purchase.Alone

/-!
# The exact effect of one purchase

What one purchase leaves in the two stores, and at which price. A reachable catalog keeps nothing under a
transaction that is not opened yet, so a transaction that is rolled back leaves no trace but its
numbers; `purchase_leaves` reads everything else off the ways in which an attempt ends.
-/

namespace Couponry

open Couponry.Program
open Ledger (CounterKey)

namespace Catalog

/-! ## Reachable catalogs -/

/-- What can happen to a catalog: a call, or a turn of the switch that makes commits fail. -/
inductive Command where
  | call (c : ProductCall)
  | failOnCommit (fail : Bool)

/-- A call names only transactions that were opened. -/
def Command.Known (c : Catalog) : Command → Prop
  | .call asked => ∀ tx, asked.tx? = some tx → tx.value ≤ c.lastTx
  | .failOnCommit _ => True

/-- The catalog after a command. -/
def exec (c : Catalog) : Command → Catalog
  | .call asked => (answer asked c).2
  | .failOnCommit fail => { c with failOnCommit := fail }

/-- The catalogs that commands lead to from the empty one. -/
inductive Reachable : Catalog → Prop where
  | empty : Reachable .empty
  | exec {c : Catalog} (reached : Reachable c) (command : Command) (known : command.Known c) :
      Reachable (c.exec command)

/-- Every transaction that is open was opened. -/
def Numbered (c : Catalog) : Prop :=
  ∀ e ∈ c.pending.entries, e.1.value ≤ c.lastTx

theorem Numbered.exec {c : Catalog} (h : c.Numbered) {command : Command} (known : command.Known c) :
    (c.exec command).Numbered := by
  have insert : ∀ (last : Nat) (tx : TxId) (records : List PurchaseRecord), c.lastTx ≤ last →
      tx.value ≤ last → ∀ e ∈ (c.pending.insert tx records).entries, e.1.value ≤ last := by
    intro last tx records grown new e member
    rcases List.mem_cons.1 member with rfl | old
    · exact new
    · exact Nat.le_trans (h e (List.mem_filter.1 old).1) grown
  have erase : ∀ tx, ∀ e ∈ (c.pending.erase tx).entries, e.1.value ≤ c.lastTx :=
    fun tx e member => h e (List.mem_filter.1 member).1
  cases command with
  | failOnCommit fail => exact h
  | call asked =>
    cases asked with
    | createProduct | getProduct => exact h
    | begin => exact insert _ _ _ (Nat.le_succ _) (Nat.le_refl _)
    | insertPurchase tx p =>
      show ((c.insertPurchase tx p).2).Numbered
      unfold insertPurchase
      split
      · exact insert _ _ _ (Nat.le_refl _) (known tx rfl)
      · exact h
    | commit tx =>
      show ((c.commit tx).2).Numbered
      unfold commit
      split <;> exact erase tx
    | rollback tx => exact erase tx
    | abandon tx => exact erase tx

theorem Reachable.numbered {c : Catalog} (reached : c.Reachable) : c.Numbered := by
  induction reached with
  | empty => exact fun e member => absurd member List.not_mem_nil
  | exec _ _ known ih => exact ih.exec known

/-- A transaction of which nothing is kept leaves only its numbers behind. -/
theorem Reachable.spend {c : Catalog} (reached : c.Reachable) :
    c.spend = { c with lastTx := c.lastTx + 1, lastPurchaseId := c.lastPurchaseId + 1 } := by
  have other : ∀ e ∈ c.pending.entries, decide (e.1 ≠ (⟨c.lastTx + 1⟩ : TxId)) = true := by
    intro e member
    have old := reached.numbered e member
    rw [decide_eq_true_eq]
    intro same
    rw [same] at old
    exact Nat.not_succ_le_self _ old
  have same : c.pending.erase ⟨c.lastTx + 1⟩ = c.pending :=
    congrArg Table.mk (List.filter_eq_self.2 other)
  rw [Catalog.spend, same]

end Catalog

/-- Both stores are reachable. -/
structure Stores.Reachable (s : Stores) : Prop where
  ledger : s.ledger.Reachable
  catalog : s.catalog.Reachable

/-! ## What a purchase leaves -/

/-- A price after a rule: a share of it, cut off toward zero, or the amount that replaces it. -/
def Discounted (price discounted : Money) : DiscountRule → Prop
  | .percent p => discounted.cents = (price.cents * p).tdiv 100
  | .fixedValue amount => discounted = amount

/-- Exactly one use of the coupon that is stored under the code is taken for the buyer and the product,
while the coupon is active and has a use left, and nothing else changes. -/
structure OneUse (script : HostScript) (a : Attempt) (code : String) (c : Coupon) (l l' : Ledger) :
    Prop where
  found : l.getByCode code = .ok c
  stored : l.coupons.get? c.id = some c
  code : c.code = code
  counted : ∃ key u, CounterKey.of? c.id a.caller.userId (some a.productId) c.scope = some key ∧
    l.counter? key = some u ∧ u.used < u.total ∧
    ∀ k, l'.counter? k = if k = key then some { u with used := u.used + 1 } else l.counter? k
  recorded : ∃ r, l'.redemptions = l.redemptions ++ [r] ∧ r.couponId = c.id ∧
    r.userId = a.caller.userId ∧ r.productId = some a.productId ∧
    (c.validFrom ≤ r.redeemedAt ∧ r.redeemedAt < c.validTo) ∧ ∃ n, r.redeemedAt = (script n).time
  terms : l.SameTerms l'

/-- The purchase is made. -/
structure Bought (script : HostScript) (a : Attempt) (s : Stores) (record : PurchaseRecord)
    (s' : Stores) : Prop where
  catalog : s'.catalog = { s.catalog with
    purchases := s.catalog.purchases ++ [record]
    lastTx := s.catalog.lastTx + 1
    lastPurchaseId := s.catalog.lastPurchaseId + 1 }
  price : ∃ product, s.catalog.products.get? a.productId = some product ∧
    record.price = product.price
  user : record.userId = a.caller.userId
  product : record.productId = a.productId
  coupon : record.coupon = a.coupon
  total : record.total.cents = max 0 record.discountedPrice.cents
  charge : 0 ≤ record.total.cents
  plain : a.coupon = none → record.discountedPrice = record.price ∧ s'.ledger = s.ledger
  discounted : ∀ code, a.coupon = some code → ∃ c, OneUse script a code c s.ledger s'.ledger ∧
    Discounted record.price record.discountedPrice c.discount

/-- The coupon is used, but the purchase is not made. -/
structure Orphaned (script : HostScript) (a : Attempt) (s s' : Stores) : Prop where
  failing : s.catalog.failOnCommit = true
  used : ∃ code c, a.coupon = some code ∧ OneUse script a code c s.ledger s'.ledger
  catalog : s'.catalog = { s.catalog with
    lastTx := s.catalog.lastTx + 1
    lastPurchaseId := s.catalog.lastPurchaseId + 1 }

/-- Nothing is left but numbers that were used up. -/
structure Undone (s s' : Stores) : Prop where
  ledger : s'.ledger = s.ledger
  catalog : s'.catalog = s.catalog ∨ s'.catalog = { s.catalog with
    lastTx := s.catalog.lastTx + 1
    lastPurchaseId := s.catalog.lastPurchaseId + 1 }

/-- What a purchase leaves, by what it returns. -/
def Leaves (script : HostScript) (a : Attempt) (s : Stores)
    (result : Except PurchaseError PurchaseRecord) (s' : Stores) : Prop :=
  match result with
  | .ok record => Bought script a s record s'
  | .error (.orphanedRedemption _ _) => Orphaned script a s s'
  | .error _ => Undone s s'

namespace Scene

variable {script : HostScript} {a : Attempt} {s : Stores} {l : Ledger} {c : Coupon} {code : String}

/-- A use that is taken is exactly one. -/
theorem Takes.oneUse (takes : Takes script a code s c l) (reached : s.Reachable) :
    OneUse script a code c s.ledger l := by
  obtain ⟨stored, named⟩ := reached.ledger.wellFormed.stored_of_getByCode takes.found
  obtain ⟨n, r, active, made⟩ := takes.redeemed
  have terms := Ledger.SameTerms.redeem s.ledger c a.caller.userId (some a.productId) (script n).time
  rw [made] at terms
  obtain ⟨of, user, product, time, key, u, moved, counted, left, rfl⟩ := Ledger.redeem_eq_ok made
  have started := Coupon.isActiveAt_iff.1 active
  refine ⟨takes.found, stored, named,
    ⟨key, u, Ledger.counterKey_eq_ok_iff.1 moved, counted, left, fun k => ?_⟩,
    ⟨r, ?_, of, user, product, by rw [time]; exact started, n, time⟩, terms⟩
  · rw [Ledger.counter?_addRedemption, Ledger.counter?_setUsage counted]
    rfl
  · show (s.ledger.setUsage key u.bump (script n).time).redemptions ++ [r] = _
    rw [Ledger.redemptions_setUsage]

theorem discounted_apply (rule : DiscountRule) (price : Money) :
    Discounted price (rule.apply price) rule := by
  cases rule <;> rfl

/-- A purchase that is recorded is one of this product, at the price it has. -/
theorem Bought.of_sell (reached : s.Reachable) {product : Product}
    (stocked : s.catalog.products.get? a.productId = some product) (discounted : Money) (now : Instant)
    (plain : a.coupon = none → discounted = product.price ∧ l = s.ledger)
    (used : ∀ code, a.coupon = some code → ∃ c, OneUse script a code c s.ledger l ∧
      Discounted product.price discounted c.discount) :
    Bought script a s (recordOf a s product discounted now)
      ⟨l, s.catalog.sell (recordOf a s product discounted now)⟩ where
  catalog := by rw [Catalog.sell, reached.catalog.spend]
  price := ⟨product, stocked, rfl⟩
  user := rfl
  product := rfl
  coupon := rfl
  total := Int.max_comm _ _
  charge := Int.le_max_right _ _
  plain := plain
  discounted := used

/-- Every way in which an attempt ends leaves what its result says. -/
theorem Attempted.leaves {result : Except PurchaseError PurchaseRecord} {s' : Stores}
    {raised : List Counter} (attempted : Attempted script a s result s' raised)
    (reached : s.Reachable) : Leaves script a s result s' := by
  have undone : ∀ {e : PurchaseError} {s' : Stores}, e.isOrphan = false → Undone s s' →
      Leaves script a s (.error e) s' := by
    intro e s' plain undone
    cases e with
    | orphanedRedemption => cases plain
    | _ => exact undone
  cases attempted with
  | refused e plain => exact undone plain ⟨rfl, .inl rfl⟩
  | rejected e plain => exact undone plain ⟨rfl, .inr reached.catalog.spend⟩
  | uncommitted e => exact undone rfl ⟨rfl, .inr reached.catalog.spend⟩
  | orphaned code c l takes failing =>
    exact ⟨failing, ⟨code, c, takes.given, takes.oneUse reached⟩, reached.catalog.spend⟩
  | bought plain product stocked now =>
    refine Bought.of_sell reached stocked _ now (fun _ => ⟨rfl, rfl⟩) fun code given => ?_
    cases plain.symm.trans given
  | boughtWith code c l takes product stocked now =>
    refine Bought.of_sell reached stocked _ now (fun plain => ?_) fun code' given => ?_
    · cases plain.symm.trans takes.given
    · cases takes.given.symm.trans given
      exact ⟨c, takes.oneUse reached, discounted_apply c.discount product.price⟩

/-- **One purchase has exactly the effect that its result says**, on whatever reachable stores it is made:
a record at the right price and one use of its coupon; or one use and no record, when the commit failed
after the redemption; or nothing. -/
theorem purchase_leaves (script : HostScript) (a : Attempt) (t : Scene) (reached : t.stores.Reachable) :
    Leaves script a t.stores (a.program.run (serve script) t).1
      (a.program.run (serve script) t).2.stores := by
  obtain ⟨s', raised, ⟨within, attempted, -⟩, leads⟩ := ensures_purchase script a t
  rw [leads.stores]
  exact attempted.leaves reached

/-- Half of an odd price is cut off, and when the commit fails the use is gone. -/
theorem purchase_leaves_half :
    let script : HostScript := fun _ => HostAnswers.stopped ⟨5, 0⟩
    let a : Attempt := ⟨⟨⟨2⟩, .user⟩, ⟨1⟩, some "ONCE"⟩
    let s : Stores := ⟨(Ledger.empty.createCoupon Ledger.single).2,
      (Catalog.empty.addProduct "cup" ⟨199⟩ ⟨0, 0⟩).2⟩
    let failing : Stores := ⟨s.ledger, s.catalog.exec (.failOnCommit true)⟩
    let after := fun s : Stores => a.program.run (serve script) ⟨s, 0, []⟩
    let record : PurchaseRecord := ⟨1, ⟨1⟩, ⟨2⟩, ⟨199⟩, ⟨99⟩, ⟨99⟩, some "ONCE", ⟨5, 0⟩⟩
    s.Reachable ∧ (after s).1 = .ok record ∧ Bought script a s record (after s).2.stores ∧
      failing.Reachable ∧ Orphaned script a failing (after failing).2.stores := by
  intro script a s failing after record
  have reached : s.Reachable :=
    ⟨.exec .empty (.call (.createCoupon Ledger.single)),
      .exec .empty (.call (.createProduct "cup" ⟨199⟩ ⟨0, 0⟩)) nofun⟩
  have reached' : failing.Reachable := ⟨reached.ledger, .exec reached.catalog (.failOnCommit true) trivial⟩
  have bought : (after s).1 = .ok record := rfl
  have orphaned : (after failing).1 =
      .error (.orphanedRedemption "ONCE" "Commit failed: simulated commit failure") := rfl
  have left := purchase_leaves script a ⟨s, 0, []⟩ reached
  have left' := purchase_leaves script a ⟨failing, 0, []⟩ reached'
  rw [bought] at left
  rw [orphaned] at left'
  exact ⟨reached, bought, left, reached', left'⟩

end Scene

end Couponry
