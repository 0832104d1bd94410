import Couponry.Coupon.Ledger
import Couponry.Coupon.Service

/-!
# The coupon component on a ledger

A program of the coupon component, run by itself: a ledger answers the calls to the store, and a host
that never changes its mind answers the rest. The equations here run a program call by call.
-/

namespace Couponry

/-- What a host answers. -/
abbrev HostAnswers : Type :=
  (c : HostCall) → c.Answer

/-- The time on the clock of a host. -/
def HostAnswers.time (host : HostAnswers) : Instant :=
  host .now

/-- A host whose clock stands still. -/
def HostAnswers.stopped (time : Instant) : HostAnswers
  | .now => time
  | .letter => (0 : Letter)
  | .note _ => ()
  | .counters => []

namespace Ledger

/-- Answers a call of the coupon component. -/
def serve (host : HostAnswers) : (c : CouponCall) → Ledger → CouponCalls.Answer c × Ledger
  | .store c, l => answer c l
  | .host c, l => (host c, l)

/-- Runs a program of the coupon component. -/
def perform {α : Type} (host : HostAnswers) (p : CouponProgram α) (l : Ledger) : α × Ledger :=
  p.run (serve host) l

section Perform

variable {α β : Type} (host : HostAnswers) (l : Ledger)

@[simp] theorem perform_pure (a : α) : perform host (pure a) l = (a, l) := rfl

@[simp] theorem perform_bind (p : CouponProgram α) (f : α → CouponProgram β) :
    perform host (p >>= f) l = perform host (f (perform host p l).1) (perform host p l).2 :=
  Program.run_bind _ p f l

@[simp] theorem perform_store (c : StoreCall) :
    perform host (CouponProgram.store c) l = answer c l := rfl

@[simp] theorem perform_now : perform host CouponProgram.now l = (host.time, l) := rfl

@[simp] theorem perform_log (e : Event) : perform host (CouponProgram.log e) l = ((), l) := rfl

@[simp] theorem perform_count (c : Counter) : perform host (CouponProgram.count c) l = ((), l) := rfl

end Perform

/-- A coupon of one use. -/
def single : NewCoupon where
  code := "ONCE"
  validFrom := ⟨0, 0⟩
  validTo := ⟨10, 0⟩
  discount := .percent 50
  scope := .limited
  total := 1
  description := none
  imageUrl := none
  createdBy := ⟨1⟩
  createdAt := ⟨0, 0⟩

end Ledger

end Couponry
