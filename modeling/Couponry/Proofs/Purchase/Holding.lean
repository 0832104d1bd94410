import Couponry.Proofs.Ledger.Later
import Couponry.Proofs.Purchase.Market
import Couponry.Proofs.Purchase.Transactions

/-!
# What an attempt can rely on

What holds of the stores while an attempt is at a stage of its course: its transaction is open and
contains what it wrote, the coupon that it found still means the same, and what it has redeemed and
committed is there. `Holds.turn` is the step of the attempt itself; `Holds.later` says that nobody else
can break this.
-/

namespace Couponry

/-- A coupon that had this code when it was looked up. If its id is still in use, it still does. -/
structure Ledger.Knows (l : Ledger) (code : String) (c : Coupon) : Prop where
  issued : c.id.value ≤ l.lastCouponId
  code : ∀ d, l.definition? c.id = some d → d.code = code

/-- The record is of this attempt. -/
structure Attempt.Wrote (a : Attempt) (c : Catalog) (p : PurchaseRecord) : Prop where
  issued : p.id ≤ c.lastPurchaseId
  user : p.userId = a.caller.userId
  product : p.productId = a.productId
  coupon : p.coupon = a.coupon

namespace Buyer

/-- The attempt has changed nothing that others see. -/
structure Clean (b : Buyer) : Prop where
  redemptions : b.redemptions = []
  purchases : b.purchases = []

/-- The attempt has made this redemption, against a coupon that then had this code. -/
structure RedeemedBy (b : Buyer) (code : String) (r : RedemptionRecord) : Prop where
  user : r.userId = b.attempt.caller.userId
  product : r.productId = some b.attempt.productId
  against : ∃ change ∈ b.changes, r ∈ change.redemptions ∧
    ∃ c, change.before.ledger.coupons.get? r.couponId = some c ∧ c.code = code

/-- The attempt has made this redemption and no other. -/
structure Redeemed (b : Buyer) (l : Ledger) (r : RedemptionRecord) : Prop where
  only : b.redemptions = [r]
  kept : r ∈ l.redemptions
  by_code : ∃ code, b.attempt.coupon = some code ∧ b.RedeemedBy code r

/-- The attempt has committed this purchase and no other. -/
structure Bought (b : Buyer) (c : Catalog) (p : PurchaseRecord) : Prop where
  only : b.purchases = [p]
  kept : p ∈ c.purchases

end Buyer

/-- The redemption was made in vain. -/
def PurchaseError.isOrphan : PurchaseError → Bool
  | .orphanedRedemption _ _ => true
  | _ => false

namespace Course

/-- The open transaction. -/
def tx? : Course → Option TxId
  | .opened tx | .written tx _ | .found tx _ _ | .redeeming tx _ _ _ | .refused tx _
  | .redeemed tx _ _ => some tx
  | _ => none

/-- The record that was written and not rolled back. -/
def record? : Course → Option PurchaseRecord
  | .written _ p | .found _ p _ | .redeeming _ p _ _ | .redeemed _ p _ | .committed p _ => some p
  | _ => none

/-- The purchase that was committed. -/
def purchase? : Course → Option PurchaseRecord
  | .committed p _ => some p
  | _ => none

/-- The redemption that was made. -/
def redemption? : Course → Option RedemptionRecord
  | .redeemed _ _ r | .orphaned r _ _ => some r
  | .committed _ r => r
  | _ => none

/-- What holds while an attempt is at a stage. -/
def Holds (s : Stores) (b : Buyer) : Course → Prop
  | .start | .checking | .timed _ | .granting _ | .ready => b.Clean
  | .opened tx => b.Clean ∧ s.catalog.Contains tx []
  | .written tx p => b.Clean ∧ s.catalog.Contains tx [p] ∧ b.attempt.Wrote s.catalog p
  | .found tx p c | .redeeming tx p c _ =>
    b.Clean ∧ s.catalog.Contains tx [p] ∧ b.attempt.Wrote s.catalog p ∧
      ∃ code, b.attempt.coupon = some code ∧ s.ledger.Knows code c
  | .refused tx e => b.Clean ∧ tx.value ≤ s.catalog.lastTx ∧ e.isOrphan = false
  | .redeemed tx p r =>
    b.Redeemed s.ledger r ∧ b.purchases = [] ∧ s.catalog.Contains tx [p] ∧ b.attempt.Wrote s.catalog p
  | .committed p none =>
    b.redemptions = [] ∧ b.Bought s.catalog p ∧ b.attempt.Wrote s.catalog p ∧ b.attempt.coupon = none
  | .committed p (some r) =>
    b.Redeemed s.ledger r ∧ b.Bought s.catalog p ∧ b.attempt.Wrote s.catalog p
  | .orphaned r _ _ => b.Redeemed s.ledger r ∧ b.purchases = []
  | .failed e => b.Clean ∧ e.isOrphan = false

end Course

/-! ## What nobody else can break -/

section Later

variable {s s' : Stores} {own : Option TxId}

theorem Ledger.Knows.later {l l' : Ledger} {code : String} {c : Coupon} (h : l.Knows code c)
    (later : Ledger.Later l l') : l'.Knows code c :=
  ⟨Int.le_trans h.issued later.last,
    fun d stored => h.code d (later.definition c.id d h.issued stored)⟩

theorem Attempt.Wrote.later {a : Attempt} {c c' : Catalog} {p : PurchaseRecord} (h : a.Wrote c p)
    (later : Catalog.Later own c c') : a.Wrote c' p :=
  { h with issued := Int.le_trans h.issued later.lastPurchase }

theorem Buyer.Redeemed.later {b : Buyer} {l l' : Ledger} {r : RedemptionRecord}
    (h : b.Redeemed l r) (later : Ledger.Later l l') : b.Redeemed l' r :=
  { h with kept := later.redemptions.subset h.kept }

theorem Buyer.Bought.later {b : Buyer} {c c' : Catalog} {p : PurchaseRecord} (h : b.Bought c p)
    (later : Catalog.Later own c c') : b.Bought c' p :=
  { h with kept := later.purchases.subset h.kept }

/-- What holds of an attempt survives whatever others do. -/
theorem Course.Holds.later {b : Buyer} {x : Course} (h : x.Holds s b)
    (ledger : Ledger.Later s.ledger s'.ledger) (catalog : Catalog.Later own s.catalog s'.catalog)
    (other : ∀ tx, x.tx? = some tx → own ≠ some tx) : x.Holds s' b := by
  cases x with
  | start | checking | timed | granting | ready | failed => exact h
  | opened tx =>
    obtain ⟨clean, contains⟩ := h
    exact ⟨clean, contains.later catalog (other tx rfl)⟩
  | written tx p =>
    obtain ⟨clean, contains, wrote⟩ := h
    exact ⟨clean, contains.later catalog (other tx rfl), wrote.later catalog⟩
  | found tx p c | redeeming tx p c now =>
    obtain ⟨clean, contains, wrote, code, coupon, knows⟩ := h
    exact ⟨clean, contains.later catalog (other tx rfl), wrote.later catalog, code, coupon,
      knows.later ledger⟩
  | refused tx e =>
    obtain ⟨clean, opened, blame⟩ := h
    exact ⟨clean, Nat.le_trans opened catalog.last, blame⟩
  | redeemed tx p r =>
    obtain ⟨redeemed, none, contains, wrote⟩ := h
    exact ⟨redeemed.later ledger, none, contains.later catalog (other tx rfl), wrote.later catalog⟩
  | committed p r =>
    cases r with
    | none =>
      obtain ⟨none, bought, wrote, plain⟩ := h
      exact ⟨none, bought.later catalog, wrote.later catalog, plain⟩
    | some r =>
      obtain ⟨redeemed, bought, wrote⟩ := h
      exact ⟨redeemed.later ledger, bought.later catalog, wrote.later catalog⟩
  | orphaned r code reason =>
    obtain ⟨redeemed, none⟩ := h
    exact ⟨redeemed.later ledger, none⟩

end Later

/-! ## Steps of the attempt itself -/

namespace Change

theorem redemptions_of_append {change : Change} {added : List RedemptionRecord}
    (h : change.after.ledger.redemptions = change.before.ledger.redemptions ++ added) :
    change.redemptions = added := by
  rw [redemptions, h, List.drop_left]

theorem purchases_of_append {change : Change} {added : List PurchaseRecord}
    (h : change.after.catalog.purchases = change.before.catalog.purchases ++ added) :
    change.purchases = added := by
  rw [purchases, h, List.drop_left]

/-- Neither a redemption nor a purchase was added. -/
structure Quiet (change : Change) : Prop where
  redemptions : change.redemptions = []
  purchases : change.purchases = []

theorem Quiet.of_eq {change : Change}
    (ledger : change.after.ledger.redemptions = change.before.ledger.redemptions)
    (catalog : change.after.catalog.purchases = change.before.catalog.purchases) : change.Quiet :=
  ⟨redemptions_of_append (by rw [ledger, List.append_nil]),
    purchases_of_append (by rw [catalog, List.append_nil])⟩

end Change

namespace Buyer

variable {b : Buyer} {change : Change}
  {rest : SystemProgram (Except PurchaseError PurchaseRecord)}

theorem redemptions_after : (b.after rest change).redemptions = b.redemptions ++ change.redemptions := by
  simp [after, redemptions]

theorem purchases_after : (b.after rest change).purchases = b.purchases ++ change.purchases := by
  simp [after, purchases]

theorem Clean.after (h : b.Clean) (quiet : change.Quiet) : (b.after rest change).Clean := by
  refine ⟨?_, ?_⟩
  · rw [redemptions_after, h.1, quiet.redemptions, List.append_nil]
  · rw [purchases_after, h.2, quiet.purchases, List.append_nil]

theorem Redeemed.after {l : Ledger} {r : RedemptionRecord} (h : b.Redeemed l r)
    (none : change.redemptions = []) : (b.after rest change).Redeemed l r := by
  obtain ⟨only, kept, code, coupon, user, product, old, made, against⟩ := h
  refine ⟨?_, kept, code, coupon, user, product, old, List.mem_append_left _ made, against⟩
  rw [redemptions_after, only, none, List.append_nil]

theorem Bought.after {c : Catalog} {p : PurchaseRecord} (h : b.Bought c p)
    (none : change.purchases = []) : (b.after rest change).Bought c p := by
  refine ⟨?_, h.kept⟩
  rw [purchases_after, h.only, none, List.append_nil]

/-- The attempt commits its first purchase. -/
theorem bought_after {p : PurchaseRecord} (none : b.purchases = [])
    (added : change.after.catalog.purchases = change.before.catalog.purchases ++ [p]) :
    (b.after rest change).Bought change.after.catalog p := by
  refine ⟨?_, ?_⟩
  · rw [purchases_after, none, Change.purchases_of_append added]
    rfl
  · rw [added]
    exact List.mem_concat_self

end Buyer

namespace Course.Holds

variable {s s' : Stores} {b : Buyer} {x y : Course}
  {rest : SystemProgram (Except PurchaseError PurchaseRecord)}

/-- The attempt has made a call that changed nothing, and is still at its stage. -/
theorem after (h : x.Holds s b) {change : Change} (quiet : change.Quiet) :
    x.Holds s (b.after rest change) := by
  have unsold : b.purchases = [] → (b.after rest change).purchases = [] :=
    fun none => by rw [Buyer.purchases_after, quiet.purchases, List.append_nil, none]
  cases x with
  | start | checking | timed | granting | ready => exact Buyer.Clean.after h quiet
  | opened | written | found | redeeming | refused | failed => exact ⟨h.1.after quiet, h.2⟩
  | redeemed tx p r => exact ⟨h.1.after quiet.redemptions, unsold h.2.1, h.2.2⟩
  | committed p r =>
    cases r with
    | none =>
      refine ⟨?_, h.2.1.after quiet.purchases, h.2.2⟩
      rw [Buyer.redemptions_after, quiet.redemptions, List.append_nil, h.1]
    | some r => exact ⟨h.1.after quiet.redemptions, h.2.1.after quiet.purchases, h.2.2⟩
  | orphaned r code reason => exact ⟨h.1.after quiet.redemptions, unsold h.2⟩

/-- What the host says changes the stage at most. -/
theorem host (h : x.Holds s b) {c : HostCall} {answer : c.Answer}
    (go : Step b.attempt x (.host c) answer y) : y.Holds s b := by
  cases go with
  | note | writeTime => exact h
  | checkTime now => exact h
  | redeemTime coupon tx p c now =>
    obtain ⟨clean, contains, wrote, knows⟩ := h
    unfold clocked
    split
    · exact ⟨clean, contains, wrote, knows⟩
    · exact ⟨clean, contains.1, rfl⟩

/-! ### Where answers lead -/

theorem lookedUp (clean : b.Clean) (coupon : Option String)
    (answer : Except ProductStoreError Product) : (Course.lookedUp coupon answer).Holds s b := by
  cases answer with
  | error e => exact ⟨clean, by cases e <;> rfl⟩
  | ok product => cases coupon <;> exact clean

theorem judged (clean : b.Clean) (code : String) (u : Usage) : (Course.judged code u).Holds s b := by
  unfold Course.judged
  split
  · exact ⟨clean, rfl⟩
  · exact clean

theorem checked (clean : b.Clean) (code : String) (now : Instant) (answer : Except StoreError Coupon) :
    (Course.checked code now answer).Holds s b := by
  cases answer with
  | error e => exact ⟨clean, rfl⟩
  | ok c =>
    simp only [Course.checked]
    split
    · split
      · split
        · exact ⟨clean, rfl⟩
        · exact judged clean code _
      · exact clean
      · exact clean
    · exact ⟨clean, rfl⟩

theorem granted (clean : b.Clean) (code missing : String)
    (answer : Except StoreError (Option Usage)) : (Course.granted code missing answer).Holds s b := by
  rcases answer with e | _ | u
  · exact ⟨clean, rfl⟩
  · exact ⟨clean, rfl⟩
  · exact judged clean code u

theorem foundAgain (wellFormed : s.ledger.WellFormed) {tx : TxId} {p : PurchaseRecord}
    (h : (Course.written tx p).Holds s b) {code : String} (coupon : b.attempt.coupon = some code) :
    (Course.foundAgain tx p (s.ledger.getByCode code)).Holds s b := by
  obtain ⟨clean, contains, wrote⟩ := h
  cases found : s.ledger.getByCode code with
  | error e => exact ⟨clean, contains.1, rfl⟩
  | ok c =>
    obtain ⟨stored, named⟩ := wellFormed.stored_of_getByCode found
    have alive : s.ledger.definition? c.id = some c.definition := by
      simp [Ledger.definition?, stored]
    have knows : s.ledger.Knows code c := by
      refine ⟨(wellFormed.issued c.id _ alive).2, ?_⟩
      intro d same
      cases alive.symm.trans same
      exact named
    exact ⟨clean, contains, wrote, code, coupon, knows⟩

theorem redeemed (wellFormed : s.ledger.WellFormed) {tx : TxId} {p : PurchaseRecord} {c : Coupon}
    {now : Instant} (h : (Course.redeeming tx p c now).Holds s b) {r : RedemptionRecord} {l : Ledger}
    (success : s.ledger.redeem c b.attempt.caller.userId (some b.attempt.productId) now = (.ok r, l)) :
    (Course.redeemed tx p r).Holds { s with ledger := l } (b.after rest ⟨s, { s with ledger := l }⟩) := by
  obtain ⟨clean, contains, wrote, code, coupon, knows⟩ := h
  obtain ⟨of, user, product, -, key, u, named, counted, -, after⟩ := Ledger.redeem_eq_ok success
  obtain ⟨id, -⟩ := Ledger.key_of_counterKey named
  obtain ⟨d, alive, -⟩ := wellFormed.counter_live key u counted
  rw [id] at alive
  obtain ⟨stored, live, rfl⟩ := Option.map_eq_some_iff.1 alive
  have grown : l.redemptions = s.ledger.redemptions ++ [r] := by
    rw [after]
    show (s.ledger.setUsage key u.bump now).redemptions ++ [r] = _
    rw [Ledger.redemptions_setUsage]
  have added : (Change.mk s { s with ledger := l }).redemptions = [r] :=
    Change.redemptions_of_append grown
  have bought : (Change.mk s { s with ledger := l }).purchases = [] :=
    Change.purchases_of_append (List.append_nil _).symm
  have redeemed : (b.after rest ⟨s, { s with ledger := l }⟩).RedeemedBy code r := by
    refine ⟨user, product, _, List.mem_concat_self, ?_, stored, ?_, knows.code stored.definition alive⟩
    · rw [added]
      exact List.mem_singleton_self r
    · rw [of]
      exact live
  refine ⟨⟨?_, ?_, code, coupon, redeemed⟩, ?_, contains, wrote⟩
  · rw [Buyer.redemptions_after, clean.1, added]
    rfl
  · rw [grown]
    exact List.mem_concat_self
  · rw [Buyer.purchases_after, clean.2, bought]
    rfl

theorem tookUse (wellFormed : s.ledger.WellFormed) {tx : TxId} {p : PurchaseRecord} {c : Coupon}
    {now : Instant} (h : (Course.redeeming tx p c now).Holds s b)
    {answer : Except StoreError RedemptionRecord} {l : Ledger}
    (asked : s.ledger.redeem c b.attempt.caller.userId (some b.attempt.productId) now = (answer, l)) :
    (Course.tookUse tx p answer).Holds { s with ledger := l }
      (b.after rest ⟨s, { s with ledger := l }⟩) := by
  cases answer with
  | ok r => exact redeemed wellFormed h asked
  | error e =>
    cases Ledger.redeem_eq_error asked
    exact ⟨h.1.after (.of_eq rfl rfl), h.2.1.1, rfl⟩

theorem written {tx : TxId} {p : NewPurchase} (h : (Course.opened tx).Holds s b)
    (user : p.userId = b.attempt.caller.userId) (product : p.productId = b.attempt.productId)
    (coupon : p.coupon = b.attempt.coupon) {answer : Except ProductStoreError PurchaseRecord}
    {c : Catalog} (wrote : s.catalog.insertPurchase tx p = (answer, c)) :
    (Course.wrote tx answer).Holds { s with catalog := c } (b.after rest ⟨s, { s with catalog := c }⟩) := by
  obtain ⟨clean, contains⟩ := h
  obtain ⟨e, failed⟩ | ⟨c', success, kept, last, grown⟩ := s.catalog.insertPurchase_cases tx p
  · cases wrote.symm.trans failed
    exact ⟨clean.after (.of_eq rfl rfl), contains.1, rfl⟩
  · cases wrote.symm.trans success
    refine ⟨clean.after (.of_eq rfl kept), grown [] contains, ?_, user, product, coupon⟩
    rw [last]
    exact Int.le_refl _

theorem paid {tx : TxId} {p : PurchaseRecord} (h : (Course.written tx p).Holds s b)
    (plain : b.attempt.coupon = none) {answer : Except ProductStoreError Unit} {c : Catalog}
    (committed : s.catalog.commit tx = (answer, c)) :
    (Course.paid p answer).Holds { s with catalog := c } (b.after rest ⟨s, { s with catalog := c }⟩) := by
  obtain ⟨clean, contains, wrote⟩ := h
  have later := Catalog.Later.commit s.catalog tx
  have cases := s.catalog.commit_cases tx
  rw [committed] at later cases
  obtain ⟨e, failed, kept⟩ | ⟨success, grown⟩ := cases
  · cases failed
    exact ⟨clean.after (.of_eq rfl kept), rfl⟩
  · cases success
    rw [contains.2] at grown
    refine ⟨?_, Buyer.bought_after clean.2 grown, wrote.later later, plain⟩
    rw [Buyer.redemptions_after, clean.1, Change.redemptions_of_append (List.append_nil _).symm]
    rfl

theorem paidWith {tx : TxId} {p : PurchaseRecord} {r : RedemptionRecord}
    (h : (Course.redeemed tx p r).Holds s b) (code : String)
    {answer : Except ProductStoreError Unit} {c : Catalog}
    (committed : s.catalog.commit tx = (answer, c)) :
    (Course.paidWith p r code answer).Holds { s with catalog := c }
      (b.after rest ⟨s, { s with catalog := c }⟩) := by
  obtain ⟨redeemed, none, contains, wrote⟩ := h
  have later := Catalog.Later.commit s.catalog tx
  have cases := s.catalog.commit_cases tx
  rw [committed] at later cases
  have kept : (b.after rest ⟨s, { s with catalog := c }⟩).Redeemed s.ledger r :=
    redeemed.after (Change.redemptions_of_append (List.append_nil _).symm)
  obtain ⟨e, failed, same⟩ | ⟨success, grown⟩ := cases
  · cases failed
    refine ⟨kept, ?_⟩
    rw [Buyer.purchases_after, none, Change.purchases_of_append (same.trans (List.append_nil _).symm)]
    rfl
  · cases success
    rw [contains.2] at grown
    exact ⟨kept, Buyer.bought_after none grown, wrote.later later⟩

/-- **A turn of the attempt itself.** -/
theorem turn {host : HostAnswers} {c : SystemCall} {answer : SystemCalls.Answer c}
    (wellFormed : s.ledger.WellFormed) (h : x.Holds s b) (go : Step b.attempt x c answer y)
    (served : s.serve host c = (answer, s')) : y.Holds s' (b.after rest ⟨s, s'⟩) := by
  have still : (Change.mk s s).Quiet := .of_eq rfl rfl
  cases go with
  | note _ o answer =>
    cases served
    exact h.after still
  | lookup answer =>
    cases served
    exact (lookedUp h _ _).after still
  | checkTime now =>
    cases served
    exact Buyer.Clean.after h still
  | check coupon now answer =>
    cases served
    exact (checked h _ _ _).after still
  | userGrant coupon scope answer =>
    cases served
    exact (granted h _ _ _).after still
  | productGrant coupon scope answer =>
    cases served
    exact (granted h _ _ _).after still
  | begin answer =>
    cases served
    exact ⟨Buyer.Clean.after h (.of_eq rfl rfl), s.catalog.contains_openTx⟩
  | writeTime tx now =>
    cases served
    exact h.after still
  | write tx user product coupon answer =>
    cases served
    exact h.written user product coupon rfl
  | find coupon tx p answer =>
    cases served
    exact (h.foundAgain wellFormed coupon).after still
  | redeemTime coupon =>
    cases served
    exact (h.host (.redeemTime coupon _ _ _ _)).after still
  | redeem tx p c now answer =>
    cases served
    exact h.tookUse wellFormed rfl
  | rollback tx e answer =>
    cases served
    exact ⟨h.1.after (.of_eq rfl rfl), h.2.2⟩
  | commit plain tx p answer =>
    cases served
    exact h.paid plain rfl
  | commitWith coupon tx p r answer =>
    cases served
    exact h.paidWith _ rfl

end Course.Holds

end Couponry
