import Couponry.Proofs.Network.Attempt

/-!
# Purchases over an unreliable network

Many purchases at once, each with its own fates for its requests. A move lets one of them make its next
call, or is of somebody else; the moves come in any order. All that the host is told goes to one
journal.
-/

namespace Couponry

open Couponry.Http

/-- A purchase that is asked for, with what becomes of its requests. -/
structure Order where
  attempt : Attempt
  fates : Fates
  deriving DecidableEq, Repr

/-- An order under way: what is left to do, and what its calls have changed. -/
structure Errand where
  order : Order
  rest : SystemProgram (Except PurchaseError PurchaseRecord)
  changes : List Change

namespace Errand

/-- An order before its first call. -/
def enter (base : Url) (o : Order) : Errand :=
  ⟨o, Deployment.purchase (Deployment.unreliable o.fates base) o.attempt.caller o.attempt.productId
    o.attempt.coupon, []⟩

/-- What the purchase has returned. -/
def result? (e : Errand) : Option (Except PurchaseError PurchaseRecord) :=
  match e.rest with
  | .done result => some result
  | .ask _ _ => none

/-- The redemptions that were made on behalf of the purchase. -/
def redemptions (e : Errand) : List RedemptionRecord :=
  e.changes.flatMap Change.redemptions

/-- What the purchase has committed. -/
def purchases (e : Errand) : List PurchaseRecord :=
  e.changes.flatMap Change.purchases

/-- The purchase has returned, and was not committed. -/
def uncommitted (e : Errand) : Bool :=
  e.result?.isSome && e.purchases.isEmpty

/-- The purchase has returned that its redemption is left behind. -/
def isOrphaned (e : Errand) : Bool :=
  match e.result? with
  | some (.error failure) => failure.isOrphan
  | _ => false

/-- The purchase has returned, and the reply to the request that made its redemption was lost. -/
def isUnheard (e : Errand) : Bool :=
  match e.order.fates.redeem with
  | .replyLost _ => e.result?.isSome && !e.redemptions.isEmpty
  | _ => false

end Errand

/-- The stores, the orders under way, and all that was observed. -/
structure Shop where
  stores : Stores
  errands : List Errand
  journal : List Observation

/-- What the host is told by a call. -/
def SystemCall.notes : SystemCall → List Observation
  | .host (.note o) => [o]
  | _ => []

namespace Shop

/-- What can happen in a shop. -/
inductive Move where
  | enter (o : Order)
  /-- An order makes its next call. -/
  | step (i : Nat) (host : HostAnswers)
  /-- Somebody else calls the store of coupons. -/
  | call (c : StoreCall)
  | addProduct (name : String) (price : Money) (now : Instant)
  | failOnRedeem (fail : Bool)
  | failOnCommit (fail : Bool)

/-- A shop where nothing has happened. -/
def opened (s : Stores) : Shop :=
  ⟨s, [], []⟩

/-- The shop after an order has made its next call. -/
def step (m : Shop) (i : Nat) (host : HostAnswers) : Shop :=
  match m.errands[i]? with
  | none => m
  | some e =>
    match e.rest with
    | .done _ => m
    | .ask c next =>
      let (answer, s) := m.stores.serve host c
      ⟨s, m.errands.set i ⟨e.order, next answer, e.changes ++ [⟨m.stores, s⟩]⟩, m.journal ++ c.notes⟩

/-- The shop after a move. -/
def exec (base : Url) (m : Shop) : Move → Shop
  | .enter o => { m with errands := m.errands ++ [.enter base o] }
  | .step i host => m.step i host
  | .call c => { m with stores := { m.stores with ledger := (Ledger.answer c m.stores.ledger).2 } }
  | .addProduct name price now =>
    { m with stores := { m.stores with catalog := (m.stores.catalog.addProduct name price now).2 } }
  | .failOnRedeem fail =>
    { m with stores := { m.stores with ledger := { m.stores.ledger with failOnRedeem := fail } } }
  | .failOnCommit fail =>
    { m with stores := { m.stores with catalog := { m.stores.catalog with failOnCommit := fail } } }

/-- The shop after a run. -/
def run (base : Url) (m : Shop) (moves : List Move) : Shop :=
  moves.foldl (exec base) m

end Shop

/-! ## One call -/

namespace Tally

section Serve

variable {s s' : Stores} {host : HostAnswers} {x y : Tally} {c : SystemCall}
  {answer : SystemCalls.Answer c}

/-- The stores hold what the tally says is written and not committed. -/
def KeptBy (x : Tally) (s : Stores) : Prop :=
  ∀ tx records, x.pending = some (tx, records) → s.catalog.Contains tx records

/-- A call has changed the stores by as much as the tally says. -/
structure Counts (s s' : Stores) (x : Tally) (notes : List Observation) (y : Tally) : Prop where
  redeemed : y.redeemed = x.redeemed + (Change.mk s s').redemptions.length
  bought : y.bought = x.bought ++ (Change.mk s s').purchases
  kept : y.KeptBy s'
  reported : y.reported = x.reported + Observation.total notes .orphanedRedemptions
  /-- A transaction that is open was open before, or is new. -/
  fresh : ∀ tx, y.tx? = some tx → x.tx? = some tx ∨ s.catalog.lastTx < tx.value

theorem Counts.refl (kept : x.KeptBy s) {notes : List Observation}
    (quiet : Observation.total notes .orphanedRedemptions = 0) : Counts s s x notes x where
  redeemed := by simp [Change.redemptions]
  bought := by simp [Change.purchases]
  kept := kept
  reported := by rw [quiet, Nat.add_zero]
  fresh := fun _ open_ => .inl open_

theorem serve_quiet (quiet : c.Quiet) (served : s.serve host c = (answer, s')) :
    s' = s ∧ Observation.total c.notes .orphanedRedemptions = 0 := by
  have kept := Stores.serve_of_quiet quiet s host
  rw [served] at kept
  refine ⟨kept, ?_⟩
  cases c with
  | store c => rfl
  | products c => rfl
  | host c =>
    cases c with
    | now | letter | counters => rfl
    | note o =>
      have other : o ≠ .count .orphanedRedemptions := fun same => quiet (congrArg _ same)
      simp [SystemCall.notes, Observation.total, other]

/-- What a call to the catalog counts. -/
theorem counts_catalog {after : Catalog} {records : List PurchaseRecord}
    (redeemed : y.redeemed = x.redeemed) (reported : y.reported = x.reported)
    (bought : y.bought = x.bought ++ records)
    (purchases : after.purchases = s.catalog.purchases ++ records)
    (kept : y.KeptBy { s with catalog := after })
    (fresh : ∀ tx, y.tx? = some tx → x.tx? = some tx ∨ s.catalog.lastTx < tx.value) :
    Counts s { s with catalog := after } x [] y where
  redeemed := by simp [Change.redemptions, redeemed]
  bought := by simp [Change.purchases, purchases, bought]
  kept := kept
  reported := reported
  fresh := fresh

theorem counts_redeem (kept : x.KeptBy s) {coupon : Coupon} {userId : UserId}
    {productId : Option ProductId} {time : Instant} {r : RedemptionRecord} {after : Ledger}
    (made : s.ledger.redeem coupon userId productId time = (.ok r, after)) :
    Counts s { s with ledger := after } x [] x.redeem where
  redeemed := by
    obtain ⟨-, -, -, -, key, u, -, -, -, rfl⟩ := Ledger.redeem_eq_ok made
    have added : ((s.ledger.setUsage key u.bump time).addRedemption r).redemptions =
        s.ledger.redemptions ++ [r] := by
      simp [Ledger.addRedemption]
    simp [redeem, Change.redemptions, added]
  bought := by simp [redeem, Change.purchases]
  kept := kept
  reported := rfl
  fresh := fun _ open_ => .inl open_

theorem counts_insertPurchase {tx : TxId} {records : List PurchaseRecord}
    (own : x.pending = some (tx, records)) (kept : x.KeptBy s) {p : NewPurchase}
    {record : PurchaseRecord} {after : Catalog}
    (made : s.catalog.insertPurchase tx p = (.ok record, after)) :
    Counts s { s with catalog := after } x [] { x with pending := some (tx, records ++ [record]) } := by
  obtain ⟨e, failed⟩ | ⟨next, written, purchases, -, contains⟩ := s.catalog.insertPurchase_cases tx p
  · cases failed.symm.trans made
  · cases written.symm.trans made
    refine counts_catalog rfl rfl (List.append_nil _).symm
      (by rw [List.append_nil]; exact purchases) ?_ ?_
    · rintro _ _ ⟨⟩
      exact contains records (kept tx records own)
    · rintro _ ⟨⟩
      exact .inl (by rw [tx?, own]; rfl)

theorem counts_close {records : List PurchaseRecord} {after : Catalog}
    (purchases : after.purchases = s.catalog.purchases ++ records) :
    Counts s { s with catalog := after } x [] (x.close records) :=
  counts_catalog rfl rfl rfl purchases nofun nofun

/-- **A step counts what it changes.** -/
theorem Step.counts (kept : x.KeptBy s) (served : s.serve host c = (answer, s'))
    (go : Step x c answer y) : Counts s s' x c.notes y := by
  cases go with
  | quiet quiet =>
    obtain ⟨rfl, silent⟩ := serve_quiet quiet served
    exact .refl kept silent
  | reports =>
    cases served
    have silent : Observation.total [] .orphanedRedemptions = 0 := rfl
    exact { Counts.refl kept silent with reported := rfl }
  | refused coupon userId productId time e =>
    obtain ⟨answered, after⟩ := Prod.mk.inj served
    have unchanged : (s.ledger.redeem coupon userId productId time).2 = s.ledger :=
      Ledger.redeem_eq_error (Prod.ext answered rfl)
    obtain rfl : s = s' := by
      rw [← after, Ledger.answer, unchanged]
    exact .refl kept rfl
  | redeems coupon userId productId time r =>
    obtain ⟨answered, rfl⟩ := Prod.mk.inj served
    exact counts_redeem kept (Prod.ext answered rfl)
  | notBegun e => cases served
  | begins tx =>
    cases served
    refine counts_catalog rfl rfl (List.append_nil _).symm (List.append_nil _).symm ?_ ?_
    · rintro _ _ ⟨⟩
      exact s.catalog.contains_openTx
    · rintro _ ⟨⟩
      exact .inr (Nat.lt_succ_self _)
  | notWritten own p e =>
    obtain ⟨answered, after⟩ := Prod.mk.inj served
    obtain ⟨_, failed⟩ | ⟨_, written, -⟩ := s.catalog.insertPurchase_cases _ p
    · obtain rfl : s = s' := by
        rw [← after, Catalog.answer, failed]
      exact .refl kept rfl
    · cases answered.symm.trans (congrArg Prod.fst written)
  | writes own p record =>
    obtain ⟨answered, rfl⟩ := Prod.mk.inj served
    exact counts_insertPurchase own kept (Prod.ext answered rfl)
  | notCommitted own e =>
    obtain ⟨answered, rfl⟩ := Prod.mk.inj served
    obtain ⟨_, -, purchases⟩ | ⟨done, -⟩ := s.catalog.commit_cases _
    · exact counts_close (by rw [List.append_nil]; exact purchases)
    · cases answered.symm.trans done
  | commits own =>
    obtain ⟨answered, rfl⟩ := Prod.mk.inj served
    obtain ⟨_, failed, -⟩ | ⟨-, purchases⟩ := s.catalog.commit_cases _
    · cases answered.symm.trans failed
    · rw [(kept _ _ own).2] at purchases
      exact counts_close purchases
  | rollsBack own answer =>
    obtain ⟨-, rfl⟩ := Prod.mk.inj served
    exact counts_close (List.append_nil _).symm

end Serve

end Tally

end Couponry
