import Couponry.Proofs.Ledger.Terms
import Couponry.Proofs.Purchase.Turn

/-!
# What a user may change

A user changes nothing but what is its own: it takes uses, and it leaves redemptions and purchases in
its own name. `UsedBy` says so of two states of the stores, and `usedBy_purchase` of every purchase, on
whatever stores it is made. The purchases that a commit makes are those of the transaction, so the
invariant is that the open transaction of an attempt contains nothing but purchases of its caller.
-/

namespace Couponry

/-- The list has grown by entries of one user. -/
def GrownBy {α : Type} (owner : α → UserId) (userId : UserId) (before after : List α) : Prop :=
  ∃ added, after = before ++ added ∧ ∀ a ∈ added, owner a = userId

theorem GrownBy.refl {α : Type} (owner : α → UserId) (userId : UserId) (list : List α) :
    GrownBy owner userId list list :=
  ⟨[], (List.append_nil list).symm, fun _ added => absurd added List.not_mem_nil⟩

theorem GrownBy.trans {α : Type} {owner : α → UserId} {userId : UserId} {first second third : List α}
    (grown : GrownBy owner userId first second) (grown' : GrownBy owner userId second third) :
    GrownBy owner userId first third := by
  obtain ⟨added, rfl, own⟩ := grown
  obtain ⟨added', rfl, own'⟩ := grown'
  refine ⟨added ++ added', List.append_assoc _ _ _, fun a made => ?_⟩
  rcases List.mem_append.1 made with made | made
  · exact own a made
  · exact own' a made

/-- The stores have changed by what a user does: the terms of coupons and the products are as they were,
and all that was added is in the name of the user. -/
structure UsedBy (userId : UserId) (s s' : Stores) : Prop where
  terms : s.ledger.SameTerms s'.ledger
  redemptions : GrownBy RedemptionRecord.userId userId s.ledger.redemptions s'.ledger.redemptions
  products : s'.catalog.products = s.catalog.products
  purchases : GrownBy PurchaseRecord.userId userId s.catalog.purchases s'.catalog.purchases

namespace UsedBy

variable {userId : UserId} {s s' s'' : Stores}

theorem refl (userId : UserId) (s : Stores) : UsedBy userId s s :=
  ⟨.refl _, .refl _ _ _, rfl, .refl _ _ _⟩

theorem trans (first : UsedBy userId s s') (second : UsedBy userId s' s'') : UsedBy userId s s'' where
  terms := first.terms.trans second.terms
  redemptions := first.redemptions.trans second.redemptions
  products := second.products.trans first.products
  purchases := first.purchases.trans second.purchases

/-- A redemption for the user. -/
theorem redeem (s : Stores) (coupon : Coupon) (userId : UserId) (productId : Option ProductId)
    (time : Instant) :
    UsedBy userId s { s with ledger := (s.ledger.redeem coupon userId productId time).2 } := by
  refine ⟨.redeem _ _ _ _ _, ?_, rfl, .refl _ _ _⟩
  cases result : s.ledger.redeem coupon userId productId time with
  | mk answer after =>
    cases answer with
    | error e =>
      rw [Ledger.redeem_eq_error result]
      exact .refl _ _ _
    | ok r =>
      obtain ⟨-, user, -, -, key, u, -, -, -, rfl⟩ := Ledger.redeem_eq_ok result
      refine ⟨[r], ?_, fun r' added => ?_⟩
      · show (s.ledger.setUsage key u.bump time).redemptions ++ [r] = _
        rw [Ledger.redemptions_setUsage]
      · rw [List.mem_singleton.1 added, user]

/-- A change of the catalog that adds purchases of the user. -/
theorem catalog {c : Catalog} (products : c.products = s.catalog.products)
    (purchases : GrownBy PurchaseRecord.userId userId s.catalog.purchases c.purchases) :
    UsedBy userId s { s with catalog := c } :=
  ⟨.refl _, .refl _ _ _, products, purchases⟩

end UsedBy

namespace Course

/-- While an attempt is under way, the stores have changed by what its caller does, and its open
transaction contains purchases of the caller only. -/
structure Own (userId : UserId) (s₀ s : Stores) (x : Course) : Prop where
  used : UsedBy userId s₀ s
  written : ∀ tx, x.tx? = some tx → ∀ p ∈ s.catalog.written tx, p.userId = userId

variable {a : Attempt} {s₀ s s' : Stores} {x y : Course}

/-! ### The transaction that stays open -/

theorem tx?_foundAgain (tx : TxId) (p : PurchaseRecord) (answer : Except StoreError Coupon) :
    (foundAgain tx p answer).tx? = some tx := by
  cases answer <;> rfl

theorem tx?_clocked (tx : TxId) (p : PurchaseRecord) (c : Coupon) (code : String) (now : Instant) :
    (clocked tx p c code now).tx? = some tx := by
  unfold clocked
  split <;> rfl

theorem tx?_tookUse (tx : TxId) (p : PurchaseRecord) (answer : Except StoreError RedemptionRecord) :
    (tookUse tx p answer).tx? = some tx := by
  cases answer <;> rfl

theorem tx?_paid (p : PurchaseRecord) (answer : Except ProductStoreError Unit) :
    (paid p answer).tx? = none := by
  cases answer <;> rfl

theorem tx?_paidWith (p : PurchaseRecord) (r : RedemptionRecord) (code : String)
    (answer : Except ProductStoreError Unit) : (paidWith p r code answer).tx? = none := by
  cases answer <;> rfl

/-! ### Steps -/

/-- The stores are as they were, and so is the open transaction, if it is still open. -/
theorem Own.keep (h : Own a.caller.userId s₀ s x) (open_ : ∀ tx, y.tx? = some tx → x.tx? = some tx) :
    Own a.caller.userId s₀ s y :=
  ⟨h.used, fun tx own => h.written tx (open_ tx own)⟩

/-- The stores have changed, and no transaction is open. -/
theorem Own.close (h : Own a.caller.userId s₀ s x) (used : UsedBy a.caller.userId s s')
    (closed : y.tx? = none) : Own a.caller.userId s₀ s' y :=
  ⟨h.used.trans used, absent closed⟩

theorem Own.insertPurchase {tx : TxId} (h : Own a.caller.userId s₀ s (.opened tx)) {p : NewPurchase}
    (user : p.userId = a.caller.userId) :
    Own a.caller.userId s₀ { s with catalog := (s.catalog.insertPurchase tx p).2 }
      (wrote tx (s.catalog.insertPurchase tx p).1) := by
  unfold Catalog.insertPurchase
  split
  · refine ⟨h.used.trans (.catalog rfl (.refl _ _ _)), ?_⟩
    rintro _ ⟨⟩ q made
    simp only [Catalog.written, Table.get?_insert, if_true, Option.getD_some] at made
    rcases List.mem_append.1 made with old | new
    · exact h.written tx rfl q old
    · rw [List.mem_singleton.1 new]
      exact user
  · exact h.keep fun _ => id

/-- A commit adds what the transaction contains, or nothing. -/
theorem UsedBy.commit {tx : TxId} (own : ∀ p ∈ s.catalog.written tx, p.userId = a.caller.userId) :
    UsedBy a.caller.userId s { s with catalog := (s.catalog.commit tx).2 } := by
  unfold Catalog.commit
  split
  · exact .catalog rfl (.refl _ _ _)
  · exact .catalog rfl ⟨_, rfl, own⟩

/-- **A step of an attempt changes what its caller may change.** -/
theorem Own.step (h : Own a.caller.userId s₀ s x) {host : HostAnswers} {c : SystemCall}
    (go : Step a x c (s.serve host c).1 y) : Own a.caller.userId s₀ (s.serve host c).2 y := by
  generalize served : s.serve host c = out at go
  obtain ⟨answer, s'⟩ := out
  cases go with
  | note _ o => cases served; exact h
  | lookup answer => cases served; exact h.keep (absent (bare_lookedUp _ _).tx)
  | checkTime now => cases served; exact h.keep (absent rfl)
  | check coupon now answer => cases served; exact h.keep (absent (bare_checked _ _ _).tx)
  | userGrant coupon scope answer => cases served; exact h.keep (absent (bare_granted _ _ _).tx)
  | productGrant coupon scope answer => cases served; exact h.keep (absent (bare_granted _ _ _).tx)
  | begin answer =>
    cases served
    refine ⟨h.used.trans (.catalog rfl (.refl _ _ _)), ?_⟩
    rintro tx ⟨⟩ p made
    have made : p ∈ s.catalog.openTx.2.written s.catalog.openTx.1 := made
    rw [(Catalog.contains_openTx s.catalog).2] at made
    exact absurd made List.not_mem_nil
  | writeTime tx now => cases served; exact h
  | write tx user product coupon answer =>
    cases served
    exact h.insertPurchase user
  | find coupon tx p answer =>
    cases served
    exact h.keep fun _ own => (tx?_foundAgain tx p _).symm.trans own
  | redeemTime coupon tx p c now =>
    cases served
    exact h.keep fun _ own => (tx?_clocked tx p c _ _).symm.trans own
  | redeem tx p c now answer =>
    cases served
    refine ⟨h.used.trans (.redeem s c _ _ now), fun tx' own => h.written tx' ?_⟩
    exact (tx?_tookUse tx p _).symm.trans own
  | rollback tx e answer =>
    cases served
    exact h.close (.catalog rfl (.refl _ _ _)) rfl
  | commit plain tx p answer =>
    cases served
    exact h.close (UsedBy.commit (h.written tx rfl)) (tx?_paid p _)
  | commitWith coupon tx p r answer =>
    cases served
    exact h.close (UsedBy.commit (h.written tx rfl)) (tx?_paidWith p r _ _)

end Course

/-- **A purchase changes what its caller may change**, on whatever stores it is made. -/
theorem usedBy_purchase (a : Attempt) (s : Stores) (script : HostScript) :
    UsedBy a.caller.userId s (a.program.run Stores.attend (s, script)).2.1 := by
  have start : Course.Own a.caller.userId s s .start := ⟨.refl _ _, nofun⟩
  obtain ⟨x, -, own⟩ := (Course.follows_program a).run (h := Stores.attend) (s := (s, script))
    (fun x s' => Course.Own a.caller.userId s s'.1 x) (fun own go => own.step go) start
  exact own.used

end Couponry
