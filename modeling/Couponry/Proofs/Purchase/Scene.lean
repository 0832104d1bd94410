import Couponry.Proofs.Network.Shop
import Couponry.Proofs.Program.Ensures

/-!
# One program at a time

The two stores, the host and the journal, when nobody else makes a call: a scene answers the calls of one
program, and is then at hand for the next. `Leads` says what a program has come to, which is a state of
the stores and the counters that it has raised; the lemmas here carry it from each call to the next.
-/

namespace Couponry

open Couponry.Program Couponry.Deployment

/-- The stores, how many calls were answered, and what the host was told. -/
structure Scene where
  stores : Stores
  calls : Nat
  journal : List Observation

namespace Scene

/-- Answers a call of the system, with the next answer of the host if it is a call to the host. -/
def serve (script : HostScript) (c : SystemCall) (t : Scene) : SystemCalls.Answer c × Scene :=
  ((t.stores.serve (script t.calls) c).1,
    ⟨(t.stores.serve (script t.calls) c).2, t.calls + 1, t.journal ++ c.notes⟩)

/-- Answers a call of the coupon component. -/
def coupon (script : HostScript) (c : CouponCall) : Scene → CouponCalls.Answer c × Scene :=
  (ofCoupon c).run (serve script)

/-- Answers a call of the saga, with the coupon component in the same process. -/
def saga (script : HostScript) (c : SagaCall) : Scene → SagaCalls.Answer c × Scene :=
  (ofSaga inProcess c).run (serve script)

/-- `t'` has come of `t` with these stores, and these counters were raised on the way. -/
structure Leads (t : Scene) (s : Stores) (raised : List Counter) (t' : Scene) : Prop where
  stores : t'.stores = s
  totals : ∀ c, Observation.total t'.journal c = Observation.total t.journal c + raised.count c

namespace Leads

variable {t t' t'' : Scene} {s s' : Stores} {raised more : List Counter}

theorem refl (t : Scene) : t.Leads t.stores [] t :=
  ⟨rfl, fun _ => rfl⟩

theorem trans (first : t.Leads s raised t') (second : t'.Leads s' more t'') :
    t.Leads s' (raised ++ more) t'' := by
  refine ⟨second.stores, fun c => ?_⟩
  rw [second.totals, first.totals, List.count_append, Nat.add_assoc]

/-- One call more. -/
theorem serve (leads : t.Leads s raised t') (script : HostScript) (c : SystemCall)
    (notes : ∀ o, Observation.total c.notes o = more.count o) :
    t.Leads (s.serve (script t'.calls) c).2 (raised ++ more) (Scene.serve script c t').2 := by
  refine ⟨?_, fun o => ?_⟩
  · rw [← leads.stores]
    rfl
  · show Observation.total (t'.journal ++ c.notes) o = _
    rw [List.count_append, ← Nat.add_assoc, ← notes, ← leads.totals]
    exact List.count_append

/-- A call of which the host is told nothing raises no counter. -/
theorem quiet (leads : t.Leads s raised t') (script : HostScript) {c : SystemCall}
    (quiet : ∀ o, Observation.total c.notes o = 0) :
    t.Leads (s.serve (script t'.calls) c).2 raised (Scene.serve script c t').2 := by
  rw [← List.append_nil raised]
  exact leads.serve script c quiet

end Leads

/-! ## Calls of the coupon component -/

section Coupon

variable {α : Type} {script : HostScript} {Q : α → Scene → Prop} {t₀ t : Scene} {s : Stores}
  {raised : List Counter} (so : t₀.Leads s raised t)
include so

theorem ensures_store {c : StoreCall} {f : c.Answer → CouponProgram α}
    (rest : ∀ t', t₀.Leads { s with ledger := (Ledger.answer c s.ledger).2 } raised t' →
      (f (Ledger.answer c s.ledger).1).Ensures (coupon script) Q t') :
    (CouponProgram.store c >>= f).Ensures (coupon script) Q t := by
  have next := rest _ (so.quiet script (c := .store c) fun _ => rfl)
  rw [← so.stores] at next
  exact next

theorem ensures_now {f : Instant → CouponProgram α}
    (rest : ∀ n t', t₀.Leads s raised t' → (f (script n).time).Ensures (coupon script) Q t') :
    (CouponProgram.now >>= f).Ensures (coupon script) Q t :=
  rest t.calls _ (so.quiet script (c := .host .now) fun _ => rfl)

theorem ensures_letter {f : Letter → CouponProgram α}
    (rest : ∀ letter t', t₀.Leads s raised t' → (f letter).Ensures (coupon script) Q t') :
    (CouponProgram.letter >>= f).Ensures (coupon script) Q t :=
  rest _ _ (so.quiet script (c := .host .letter) fun _ => rfl)

theorem ensures_log {e : Event} {f : Unit → CouponProgram α}
    (rest : ∀ t', t₀.Leads s raised t' → (f ()).Ensures (coupon script) Q t') :
    (CouponProgram.log e >>= f).Ensures (coupon script) Q t :=
  rest _ (so.quiet script (c := .host (.note (.event e))) fun _ => rfl)

theorem ensures_count {c : Counter} {f : Unit → CouponProgram α}
    (rest : ∀ t', t₀.Leads s (raised ++ [c]) t' → (f ()).Ensures (coupon script) Q t') :
    (CouponProgram.count c >>= f).Ensures (coupon script) Q t := by
  have noted : ∀ o, Observation.total [.count c] o = [c].count o := fun o => by
    simp [Observation.total, List.count_cons]
  exact rest _ (so.serve script (.host (.note (.count c))) noted)

omit so in
/-- The coupon service on the stores does what its programs do. -/
theorem ensures_service {p : CouponProgram α} (ensures : p.Ensures (coupon script) Q t) :
    (service p).Ensures (serve script) Q t :=
  ensures_via.2 ensures

end Coupon

/-! ## Calls of the saga -/

section Saga

variable {α : Type} {script : HostScript} {Q : α → Scene → Prop} {t₀ t : Scene} {s : Stores}
  {raised : List Counter}

/-- What the coupon component does is known of its own programs. -/
theorem ensures_coupons {c : ClientCall} {P : c.Answer → Scene → Prop} {f : c.Answer → SagaProgram α}
    (first : (localClient c).Ensures (coupon script) P t)
    (second : ∀ answer t', P answer t' → (f answer).Ensures (saga script) Q t') :
    (Saga.coupons c >>= f).Ensures (saga script) Q t := by
  have answered : (Saga.coupons c).Ensures (saga script) P t := by
    show (inProcess c).Ensures (serve script) P t
    exact ensures_service first
  exact answered.bind second

variable (so : t₀.Leads s raised t)
include so

theorem ensures_products {c : ProductCall} {f : c.Answer → SagaProgram α}
    (rest : ∀ t', t₀.Leads { s with catalog := (Catalog.answer c s.catalog).2 } raised t' →
      (f (Catalog.answer c s.catalog).1).Ensures (saga script) Q t') :
    (Saga.products c >>= f).Ensures (saga script) Q t := by
  have next := rest _ (so.quiet script (c := .products c) fun _ => rfl)
  rw [← so.stores] at next
  exact next

theorem saga_now {f : Instant → SagaProgram α}
    (rest : ∀ n t', t₀.Leads s raised t' → (f (script n).time).Ensures (saga script) Q t') :
    (Saga.now >>= f).Ensures (saga script) Q t :=
  rest t.calls _ (so.quiet script (c := .host .now) fun _ => rfl)

theorem saga_log {e : Event} {f : Unit → SagaProgram α}
    (rest : ∀ t', t₀.Leads s raised t' → (f ()).Ensures (saga script) Q t') :
    (Saga.log e >>= f).Ensures (saga script) Q t :=
  rest _ (so.quiet script (c := .host (.note (.event e))) fun _ => rfl)

theorem saga_count {c : Counter} {f : Unit → SagaProgram α}
    (rest : ∀ t', t₀.Leads s (raised ++ [c]) t' → (f ()).Ensures (saga script) Q t') :
    (Saga.count c >>= f).Ensures (saga script) Q t := by
  have noted : ∀ o, Observation.total [.count c] o = [c].count o := fun o => by
    simp [Observation.total, List.count_cons]
  exact rest _ (so.serve script (.host (.note (.count c))) noted)

/-- The states of an attempt are gone through in order, so every move is one that may be made. -/
theorem saga_advance {state next : PurchaseState} {program : SagaProgram Saga.Outcome}
    {Q : Saga.Outcome → Scene → Prop} (move : state.canMoveTo next = true)
    (rest : ∀ t', t₀.Leads s raised t' → program.Ensures (saga script) Q t') :
    (Saga.advance state next program).Ensures (saga script) Q t := by
  unfold Saga.advance
  rw [if_pos move]
  exact saga_log so rest

end Saga

end Scene

end Couponry
