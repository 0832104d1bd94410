import Couponry.Proofs.Coupon.Calls
import Couponry.Proofs.Purchase.Transactions
import Couponry.Deployment

/-!
# What an attempt tallies

How much an attempt to purchase has done for good, call by call: the uses it has consumed, what it has
written and committed, and how often it has reported a redemption that is left behind. Calls that only
read, and observations of any other kind, are quiet: they leave every tally as it is.
-/

namespace Couponry

/-- The call only reads, or makes an observation other than of a redemption that is left behind. -/
def SystemCall.Quiet : SystemCall → Prop
  | .store c => c.Reads
  | .products (.getProduct _) => True
  | .products _ => False
  | .host c => c ≠ .note (.count .orphanedRedemptions)

/-- What an attempt has done for good. -/
structure Tally where
  /-- How many redemptions it has made. -/
  redeemed : Nat
  /-- Its open transaction, with what it has written there. -/
  pending : Option (TxId × List PurchaseRecord)
  /-- What it has committed. -/
  bought : List PurchaseRecord
  /-- How often it has reported a redemption that is left behind. -/
  reported : Nat

namespace Tally

/-- Nothing is done. -/
def start : Tally :=
  ⟨0, none, [], 0⟩

/-- The transaction that is open. -/
def tx? (x : Tally) : Option TxId :=
  x.pending.map Prod.fst

/-- What is done while a transaction is open. -/
def within (tx : TxId) (records : List PurchaseRecord) : Tally :=
  ⟨0, some (tx, records), [], 0⟩

/-- One redemption more. -/
def redeem (x : Tally) : Tally :=
  { x with redeemed := x.redeemed + 1 }

/-- One report more. -/
def report (x : Tally) : Tally :=
  { x with reported := x.reported + 1 }

/-- The open transaction has ended, and these purchases are kept. -/
def close (x : Tally) (kept : List PurchaseRecord) : Tally :=
  { x with pending := none, bought := x.bought ++ kept }

/-- The steps of an attempt: quiet calls, reports, redemptions, and calls to its own transaction. -/
inductive Step : Tally → (c : SystemCall) → SystemCalls.Answer c → Tally → Prop where
  | quiet (x : Tally) {c : SystemCall} (quiet : c.Quiet) (answer : SystemCalls.Answer c) :
      Step x c answer x
  | reports (x : Tally) (answer : Unit) :
      Step x (.host (.note (.count .orphanedRedemptions))) answer x.report
  | refused (x : Tally) (coupon : Coupon) (userId : UserId) (productId : Option ProductId)
      (time : Instant) (e : StoreError) :
      Step x (.store (.redeem coupon userId productId time)) (.error e) x
  | redeems (x : Tally) (coupon : Coupon) (userId : UserId) (productId : Option ProductId)
      (time : Instant) (r : RedemptionRecord) :
      Step x (.store (.redeem coupon userId productId time)) (.ok r) x.redeem
  | notBegun (x : Tally) (e : ProductStoreError) : Step x (.products .begin) (.error e) x
  | begins (x : Tally) (tx : TxId) :
      Step x (.products .begin) (.ok tx) { x with pending := some (tx, []) }
  | notWritten (x : Tally) {tx : TxId} {records : List PurchaseRecord}
      (own : x.pending = some (tx, records)) (p : NewPurchase) (e : ProductStoreError) :
      Step x (.products (.insertPurchase tx p)) (.error e) x
  | writes (x : Tally) {tx : TxId} {records : List PurchaseRecord}
      (own : x.pending = some (tx, records)) (p : NewPurchase) (record : PurchaseRecord) :
      Step x (.products (.insertPurchase tx p)) (.ok record)
        { x with pending := some (tx, records ++ [record]) }
  | notCommitted (x : Tally) {tx : TxId} {records : List PurchaseRecord}
      (own : x.pending = some (tx, records)) (e : ProductStoreError) :
      Step x (.products (.commit tx)) (.error e) (x.close [])
  | commits (x : Tally) {tx : TxId} {records : List PurchaseRecord}
      (own : x.pending = some (tx, records)) :
      Step x (.products (.commit tx)) (.ok ()) (x.close records)
  | rollsBack (x : Tally) {tx : TxId} {records : List PurchaseRecord}
      (own : x.pending = some (tx, records)) (answer : Except ProductStoreError Unit) :
      Step x (.products (.rollback tx)) answer (x.close [])

/-- A quiet program leaves every tally as it is. -/
theorem follows_of_quiet {α : Type} {p : SystemProgram α} (quiet : p.Only SystemCall.Quiet)
    (x : Tally) : p.Follows Step (fun y _ => y = x) x :=
  quiet.follows fun _ answer allowed => .quiet x allowed answer

end Tally

end Couponry
