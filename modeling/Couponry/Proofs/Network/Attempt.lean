import Couponry.Proofs.Network.Redeeming
import Couponry.Proofs.Purchase.Holding

/-!
# An attempt over an unreliable network

The saga ends in one of five ways, whatever becomes of its requests and whatever the stores answer.
There is one lemma for each of its functions, from the last to the first.
-/

namespace Couponry.Tally

open Couponry.Program Couponry.Deployment Couponry.Http

/-- The ways in which an attempt ends, by what becomes of its requests. -/
inductive Ended (fates : Fates) : Tally → Except PurchaseError PurchaseRecord → Prop where
  | bought (record : PurchaseRecord) : Ended fates ⟨0, none, [record], 0⟩ (.ok record)
  | boughtWith (record : PurchaseRecord) (heard : fates.redeem = .delivered) :
      Ended fates ⟨1, none, [record], 0⟩ (.ok record)
  | orphaned (code reason : String) (heard : fates.redeem = .delivered) :
      Ended fates ⟨1, none, [], 1⟩ (.error (.orphanedRedemption code reason))
  /-- Nothing is done. -/
  | failed (e : PurchaseError) (plain : e.isOrphan = false) : Ended fates ⟨0, none, [], 0⟩ (.error e)
  /-- A use is consumed that nobody has heard of. -/
  | unheard (seen : TransportError) (lost : fates.redeem = .replyLost seen) :
      Ended fates ⟨1, none, [], 0⟩ (.error (.coupon (.internal seen.message)))

/-- The outcome of the saga goes with the tally. -/
def EndedWith (fates : Fates) (x : Tally) (o : Saga.Outcome) : Prop :=
  Ended fates x o.1

/-- A program of the saga, with the coupon component behind an unreliable network. -/
abbrev sent {α : Type} (fates : Fates) (base : Url) (p : SagaProgram α) : SystemProgram α :=
  p.via (ofSaga (unreliable fates base))

section Saga

variable {fates : Fates} {base : Url} {α : Type} {ends : Tally → α → Prop} {x : Tally}
  {caller : Identity} {productId : ProductId} {tx : TxId} {record : PurchaseRecord}

theorem follows_coupons {c : ClientCall} {mid : Tally → c.Answer → Prop}
    {f : c.Answer → SagaProgram α}
    (first : (unreliable fates base c).Follows Step mid x)
    (second : ∀ y answer, mid y answer → (sent fates base (f answer)).Follows Step ends y) :
    (sent fates base (Saga.coupons c >>= f)).Follows Step ends x :=
  first.bind second

/-- Observations of another kind change no tally. -/
theorem follows_note {o : Observation} {f : Unit → SagaProgram α}
    (other : o ≠ .count .orphanedRedemptions)
    (follows : (sent fates base (f ())).Follows Step ends x) :
    (sent fates base (Program.call (S := SagaCalls) (.host (.note o)) >>= f)).Follows Step ends x := by
  have quiet : SystemCall.Quiet (.host (.note o)) := fun same => other (HostCall.note.inj same)
  exact fun answer => ⟨x, .quiet x quiet answer, follows⟩

theorem follows_advance {state next : PurchaseState} {rest : SagaProgram Saga.Outcome}
    (move : state.canMoveTo next = true)
    (follows : (sent fates base rest).Follows Step (EndedWith fates) x) :
    (sent fates base (Saga.advance state next rest)).Follows Step (EndedWith fates) x := by
  unfold Saga.advance
  rw [if_pos move]
  exact follows_note nofun follows

theorem follows_rollback {records : List PurchaseRecord} (own : x.pending = some (tx, records))
    {e : PurchaseError} {state : PurchaseState} (ended : Ended fates (x.close []) (.error e)) :
    (sent fates base (Saga.rollback tx >>= fun _ => return (.error e, state))).Follows Step
      (EndedWith fates) x := by
  intro answer
  refine ⟨_, .rollsBack x own answer, ?_⟩
  cases answer with
  | error _ => exact follows_note nofun ended
  | ok _ => exact ended

theorem follows_finish (caller : Identity) (productId : ProductId) :
    (sent fates base (Saga.finish .reserving caller productId none tx record)).Follows Step
      (EndedWith fates) (within tx [record]) := by
  rintro (e | _)
  · exact ⟨_, .notCommitted _ rfl e, .failed _ rfl⟩
  · exact ⟨_, .commits _ rfl, follows_advance rfl (.bought record)⟩

theorem follows_finish_with (heard : fates.redeem = .delivered) (code : String) :
    (sent fates base (Saga.finish .redeeming caller productId (some code) tx record)).Follows Step
      (EndedWith fates) (within tx [record]).redeem := by
  rintro (e | _)
  · refine ⟨_, .notCommitted _ rfl e, fun reported => ⟨_, .reports _ reported, ?_⟩⟩
    exact follows_note nofun (.orphaned code e.message heard)
  · exact ⟨_, .commits _ rfl, follows_advance rfl (.boughtWith record heard)⟩

/-- The redemption is where an attempt may be left without knowing. -/
theorem follows_redeem (split : base.Sealed) (coupon : Option String) :
    (sent fates base (Saga.redeem caller productId coupon tx record)).Follows Step
      (EndedWith fates) (within tx [record]) := by
  cases coupon with
  | none => exact follows_finish caller productId
  | some code =>
    refine follows_advance rfl ?_
    refine follows_coupons (follows_redemption fates split caller code (some productId)) ?_
    rintro y (e | _) came
    · have own : y.pending = some (tx, [record]) := by
        rcases came with rfl | ⟨rfl, -⟩ <;> rfl
      refine follows_rollback own ?_
      obtain rfl | ⟨rfl, seen, lost, rfl⟩ := came
      · exact .failed _ rfl
      · exact .unheard seen lost
    · obtain ⟨heard, rfl⟩ := came
      exact follows_finish_with heard code

theorem follows_reserve (split : base.Sealed) (product : Product) (discounted : Money)
    (coupon : Option String) :
    (sent fates base (Saga.reserve caller product productId discounted coupon)).Follows Step
      (EndedWith fates) start := by
  rintro (e | tx)
  · exact ⟨_, .notBegun _ e, .failed _ rfl⟩
  · refine ⟨within tx [], .begins start tx, follows_advance rfl ?_⟩
    refine fun now => ⟨_, .quiet _ (c := .host .now) nofun now, ?_⟩
    rintro (e | record)
    · exact ⟨_, .notWritten _ rfl _ e, follows_rollback rfl (.failed _ rfl)⟩
    · exact ⟨within tx [record], .writes (within tx []) rfl _ record, follows_redeem split coupon⟩

theorem follows_validate (split : base.Sealed) (product : Product) (coupon : Option String) :
    (sent fates base (Saga.validate caller product productId coupon)).Follows Step
      (EndedWith fates) start := by
  cases coupon with
  | none => exact follows_advance rfl (follows_reserve split product product.price none)
  | some code =>
    refine follows_coupons (follows_check fates base code _) ?_
    rintro y (e | view) rfl
    · exact Ended.failed _ rfl
    · cases use : view.canUse with
      | false =>
        simp only [use]
        exact Ended.failed _ rfl
      | true =>
        simp only [use, if_true]
        exact follows_advance rfl (follows_reserve split product _ (some code))

theorem follows_attempt (split : base.Sealed) (coupon : Option String) :
    (sent fates base (Saga.attempt caller productId coupon)).Follows Step (EndedWith fates) start := by
  intro found
  refine ⟨_, .quiet _ (c := .products (.getProduct productId)) trivial found, ?_⟩
  cases found with
  | error e =>
    have plain : (PurchaseError.ofLookup e).isOrphan = false := by cases e <;> rfl
    exact Ended.failed _ plain
  | ok product => exact follows_validate split product coupon

/-- **An attempt ends in one of the five ways**, whatever the stores and the host answer. -/
theorem follows_purchase (split : base.Sealed) (fates : Fates) (caller : Identity)
    (productId : ProductId) (coupon : Option String) :
    (purchase (unreliable fates base) caller productId coupon).Follows Step (Ended fates) start := by
  refine follows_note nofun ?_
  refine Follows.via_bind (follows_attempt split coupon) ?_
  rintro y ⟨result, state⟩ ended
  refine follows_note nofun ?_
  cases result with
  | ok record => exact follows_note nofun (follows_note nofun ended)
  | error e =>
    show (sent fates base (Saga.markFailed state >>= _)).Follows _ _ _
    unfold Saga.markFailed
    split <;> exact follows_note nofun (follows_note nofun (follows_note nofun ended))

end Saga

end Couponry.Tally
