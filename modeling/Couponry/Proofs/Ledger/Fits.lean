import Couponry.Proofs.Coupon.Calls
import Couponry.Proofs.Coupon.Check
import Couponry.Proofs.Ledger.WellFormed
import Couponry.Proofs.Wire.Faithful

/-!
# Ledgers whose numbers fit

If every coupon that is created has numbers that fit their words and a window that can be written,
then all that is ever shown of a coupon can be sent. The service makes no other calls, as long as
those who ask for coupons keep to this.
-/

namespace Couponry

open Couponry.Text

/-- The numbers of the coupon fit their words, and its window can be written. -/
structure NewCoupon.Fits (c : NewCoupon) : Prop where
  discount : c.discount.Fits
  validFrom : c.validFrom.Writable
  validTo : c.validTo.Writable
  total : fitsInt64 c.total = true

/-- A coupon that the call creates fits. -/
def StoreCall.Fits : StoreCall → Prop
  | .createCoupon c => c.Fits
  | _ => True

/-- What only reads creates nothing. -/
theorem StoreCall.fits_of_reads {c : StoreCall} (reads : c.Reads) : c.Fits := by
  cases c with
  | createCoupon c => exact reads.elim
  | _ => trivial

namespace Ledger

/-- The ledgers that calls lead to when every coupon that is created fits. -/
inductive Served : Ledger → Prop where
  | empty : Served .empty
  | call {l : Ledger} (served : Served l) (c : StoreCall) (fits : c.Fits) : Served (answer c l).2

theorem Served.reachable {l : Ledger} (served : l.Served) : l.Reachable := by
  induction served with
  | empty => exact .empty
  | call _ c _ ih => exact .exec ih (.call c)

theorem Served.wellFormed {l : Ledger} (served : l.Served) : l.WellFormed :=
  served.reachable.wellFormed

/-- Coupons and counters fit. -/
structure Fits (l : Ledger) : Prop where
  definitions : ∀ id d, l.definition? id = some d →
    d.discount.Fits ∧ d.validFrom.Writable ∧ d.validTo.Writable
  counters : ∀ key u, l.counter? key = some u → fitsInt64 u.total = true

namespace Fits

variable {l l' : Ledger}

theorem empty : Fits .empty where
  definitions _ _ h := by simp [Ledger.empty, definition?] at h
  counters key _ h := by cases key <;> simp [Ledger.empty, counter?] at h

/-- A call keeps what fits. -/
theorem effect (h : l.Fits) (formed : l.WellFormed) {c : StoreCall} {answer : c.Answer}
    (fits : c.Fits) (e : Effect l ⟨c, answer⟩ l') : l'.Fits := by
  cases e with
  | nothing => exact h
  | created c sound free =>
    have fits : c.Fits := fits
    refine ⟨fun id d => ?_, fun key u => ?_⟩
    · rw [definition?_addCoupon]
      split
      · rintro ⟨⟩
        exact ⟨fits.discount, fits.validFrom, fits.validTo⟩
      · exact h.definitions id d
    · rw [counter?_addCoupon c formed.counter?_next]
      split
      · rintro ⟨⟩
        exact fits.total
      · exact h.counters key u
  | deleted id c stored =>
    refine ⟨fun k d => ?_, fun key u => ?_⟩
    · rw [definition?_removeCoupon]
      split
      · nofun
      · exact h.definitions k d
    · rw [counter?_removeCoupon]
      split
      · nofun
      · exact h.counters key u
  | inserted r next =>
    refine ⟨fun id d => ?_, fun key u => ?_⟩
    · rw [definition?_addRedemption]
      exact h.definitions id d
    · rw [counter?_addRedemption]
      exact h.counters key u
  | redeemed coupon r key u next of on named counted left =>
    refine ⟨fun id d => ?_, fun k v => ?_⟩
    · rw [definition?_addRedemption, definition?_setUsage]
      exact h.definitions id d
    · rw [counter?_addRedemption, counter?_setUsage counted]
      split
      · rintro ⟨⟩
        exact h.counters key u counted
      · exact h.counters k v

end Fits

/-- **All that is kept fits.** -/
theorem Served.fits {l : Ledger} (served : l.Served) : l.Fits := by
  induction served with
  | empty => exact .empty
  | call before c fits ih => exact ih.effect before.wellFormed fits (effect_answer _ c)

/-- A counter that fits with its total fits with what is used. -/
theorem Served.usage {l : Ledger} (served : l.Served) {key : CounterKey} {u : Usage}
    (counted : l.counter? key = some u) : u.Fits := by
  have total := served.fits.counters key u counted
  have bounds := served.wellFormed.bounds key u counted
  refine ⟨?_, total⟩
  rw [fitsInt64, decide_eq_true_eq] at total ⊢
  omega

/-! ## Views -/

section Views

variable {l : Ledger} (host : HostAnswers) {c : Coupon} (request : EligibilityRequest)

/-- What a look-up shows is a coupon with one of its counters, or without. -/
theorem view_of_checkFound (stored : l.coupons.get? c.id = some c) {code : String} {now : Instant}
    {view : CouponView}
    (shown : (perform host (Eligibility.checkFound c code request now) l).1 = .ok view) :
    ∃ usage canUse, view = c.view usage canUse ∧ ∀ u ∈ usage, ∃ key, l.counter? key = some u := by
  rw [perform_checkFound] at shown
  obtain ⟨usage, canUse, rfl, source⟩ := view_of_verdict shown
  refine ⟨usage, canUse, rfl, ?_⟩
  rintro u rfl
  obtain limit | own := source
  · obtain ⟨key, -, counted⟩ := counter_of_limit stored limit.symm
    exact ⟨key, counted⟩
  · refine ⟨.coupon c.id, ?_⟩
    rw [counter?, stored]
    exact own.symm

/-- **Whatever the service shows can be sent.** -/
theorem Served.view (served : l.Served) {code : String} {view : CouponView}
    (shown : (perform host (Service.retrieveCoupon code request) l).1 = .ok view) : view.Fits := by
  rw [perform_retrieveCoupon] at shown
  simp only [Eligibility.check, perform_bind, perform_store, answer] at shown
  cases found : l.getByCode code with
  | error e =>
    rw [found] at shown
    cases shown
  | ok c =>
    rw [found] at shown
    have stored := (served.wellFormed.stored_of_getByCode found).1
    obtain ⟨usage, canUse, rfl, counted⟩ := view_of_checkFound host request stored shown
    have known : l.definition? c.id = some c.definition := by rw [definition?, stored, Option.map_some]
    obtain ⟨discount, validFrom, validTo⟩ := served.fits.definitions _ _ known
    refine ⟨discount, validFrom, validTo, fun u used => ?_⟩
    obtain ⟨key, counted⟩ := counted u used
    exact served.usage counted

end Views

end Ledger

/-! ## The service -/

/-- The window and the numbers that a request asks for fit. -/
structure CreateCoupon.Fits (r : CreateCoupon) : Prop where
  discount : r.discount.Fits
  validFrom : r.validFrom.Writable
  validTo : r.validTo.Writable
  total : fitsInt64 r.total = true

namespace Service

/-- A step of a program that only creates what fits. -/
def CarefulStep (_ : Unit) (c : CouponCalls.Call) (_ : CouponCalls.Answer c) (_ : Unit) : Prop :=
  match c with
  | .store c => c.Fits
  | .host _ => True

/-- Every coupon that the program creates, whatever it is answered, fits. -/
def Careful {α : Type} (p : CouponProgram α) : Prop :=
  p.Follows CarefulStep (fun _ _ => True) ()

/-- A program is careful if all it creates fits, call by call. -/
theorem Careful.of_only {α : Type} {P : CouponCall → Prop} {p : CouponProgram α} (only : p.Only P)
    (fits : ∀ c, P (.store c) → c.Fits) : Careful p := by
  have stays : ∀ (c : CouponCall) (answer : CouponCalls.Answer c), P c → CarefulStep () c answer () := by
    intro c answer allowed
    cases c with
    | store c => exact fits c allowed
    | host c => trivial
  exact (only.follows stays).mono fun _ _ _ => trivial

end Service

namespace Ledger

/-- **A careful program leads to ledgers that fit.** -/
theorem Served.perform {α : Type} {l : Ledger} {p : CouponProgram α} (served : l.Served)
    (careful : Service.Careful p) (host : HostAnswers) : (perform host p l).2.Served := by
  induction p generalizing l with
  | done a => exact served
  | ask c next ih =>
    cases c with
    | store c =>
      obtain ⟨⟨⟩, fits, rest⟩ := careful (Ledger.answer c l).1
      exact ih _ (served.call c fits) rest
    | host c =>
      obtain ⟨⟨⟩, -, rest⟩ := careful (host c)
      exact ih _ served rest

end Ledger

namespace Service

/-- The service creates what it is asked for. -/
theorem careful_createCoupon (caller : Identity) {request : CreateCoupon} (fits : request.Fits) :
    Careful (createCoupon caller request) := by
  refine .of_only (creates_createCoupon caller request) ?_
  rintro _ ⟨code, now, rfl⟩
  exact ⟨fits.discount, fits.validFrom, fits.validTo, fits.total⟩

theorem careful_deleteCoupon (caller : Identity) (id : CouponId) : Careful (deleteCoupon caller id) := by
  refine .of_only (deletes_deleteCoupon caller id) ?_
  rintro _ rfl
  trivial

theorem careful_applyCoupon (caller : Identity) (code : String) (productId : Option ProductId) :
    Careful (applyCoupon caller code productId) := by
  refine .of_only (redeems_applyCoupon caller code productId) ?_
  rintro c (reads | ⟨_, _, _, rfl⟩)
  · exact StoreCall.fits_of_reads reads
  · trivial

theorem careful_listUsed (caller : Identity) : Careful (listUsed caller) :=
  .of_only (quiet_listUsed caller) fun _ => StoreCall.fits_of_reads

theorem careful_retrieveCoupon (code : String) (request : EligibilityRequest) :
    Careful (retrieveCoupon code request) :=
  .of_only (quiet_retrieveCoupon code request) fun _ => StoreCall.fits_of_reads

end Service

end Couponry
