import Couponry.Proofs.Purchase.Scene

/-!
# What the coupon service does by itself

Each operation of the coupon service, run without anybody in between: what it answers, the stores after
it, and the counters that it has raised. There is one lemma for each function, up to the four
operations.
-/

namespace Couponry

open Couponry.Program

namespace Scene

variable {script : HostScript}

/-- What a program does to the stores that it finds, with the counters that it raises. -/
def Does {α : Type} (P : Stores → α → Stores → List Counter → Prop) (t : Scene) (a : α) (t' : Scene) :
    Prop :=
  ∃ s raised, P t.stores a s raised ∧ t.Leads s raised t'

/-- Any answer, with nothing done. -/
def Nothing {α : Type} (s : Stores) (_ : α) (s' : Stores) (raised : List Counter) : Prop :=
  s' = s ∧ raised = []

theorem does_nothing {α : Type} {t t' : Scene} (leads : t.Leads t.stores [] t') (a : α) :
    Does Nothing t a t' :=
  ⟨_, _, ⟨rfl, rfl⟩, leads⟩

/-! ## The check -/

theorem ensures_scopeUsage (c : Coupon) (request : EligibilityRequest) (t : Scene) :
    (Eligibility.scopeUsage c request).Ensures (coupon script) (Does Nothing t) t := by
  unfold Eligibility.scopeUsage
  cases c.scope with
  | limited => exact does_nothing (.refl t) _
  | user =>
    cases request.userId with
    | none => exact does_nothing (.refl t) _
    | some userId =>
      refine ensures_store (.refl t) fun t' leads => ?_
      split <;> exact does_nothing leads _
  | product =>
    cases request.productId with
    | none => exact does_nothing (.refl t) _
    | some productId =>
      refine ensures_store (.refl t) fun t' leads => ?_
      split <;> exact does_nothing leads _

theorem ensures_shownUsage (c : Coupon) (request : EligibilityRequest) (t : Scene) :
    (Eligibility.shownUsage c request).Ensures (coupon script) (Does Nothing t) t := by
  unfold Eligibility.shownUsage
  split
  · exact does_nothing (.refl t) _
  · refine ensures_store (.refl t) fun t' leads => ?_
    split <;> exact does_nothing leads _
  · refine ensures_store (.refl t) fun t' leads => ?_
    split <;> exact does_nothing leads _
  · exact does_nothing (.refl t) _

/-- A check changes nothing, and what it shows has the property. -/
def Shows (P : CouponView → Prop) (s : Stores) (r : Except CouponError CouponView) (s' : Stores)
    (raised : List Counter) : Prop :=
  s' = s ∧ raised = [] ∧ ∀ view, r = .ok view → P view

theorem Shows.failed (P : CouponView → Prop) (s : Stores) (e : CouponError) : Shows P s (.error e) s [] := by
  refine ⟨rfl, rfl, fun view shown => ?_⟩
  cases shown

theorem ensures_checkFound (c : Coupon) (code : String) (request : EligibilityRequest) (now : Instant)
    (t : Scene) : (Eligibility.checkFound c code request now).Ensures (coupon script)
      (Does (Shows fun view => view.discount = c.discount) t) t := by
  have failed : ∀ {t'} (e : CouponError), t.Leads t.stores [] t' →
      Does (Shows fun view => view.discount = c.discount) t (.error e) t' :=
    fun e leads => ⟨_, _, .failed _ _ e, leads⟩
  have shown : ∀ {t'} (usage : Option Usage) (canUse : Bool), t.Leads t.stores [] t' →
      Does (Shows fun view => view.discount = c.discount) t (.ok (c.view usage canUse)) t' := by
    refine fun usage canUse leads => ⟨_, _, ⟨rfl, rfl, ?_⟩, leads⟩
    rintro _ ⟨⟩
    rfl
  unfold Eligibility.checkFound
  split
  · refine (ensures_shownUsage c request t).bind ?_
    rintro (e | usage) t' ⟨_, _, ⟨rfl, rfl⟩, leads⟩
    · exact failed e leads
    · exact shown usage true leads
  · split
    · exact ensures_log (.refl t) fun t' leads => shown c.usage false leads
    · refine (ensures_scopeUsage c request t).bind ?_
      rintro (e | usage) t' ⟨_, _, ⟨rfl, rfl⟩, leads⟩
      · exact failed e leads
      · dsimp only
        split
        · exact ensures_log leads fun t'' leads => shown (some usage) (!usage.isExhausted) leads
        · exact shown (some usage) (!usage.isExhausted) leads

/-- The rule that is shown is that of the coupon with this code. -/
def RuleOf (code : String) (s : Stores) (view : CouponView) : Prop :=
  ∃ c, s.ledger.getByCode code = .ok c ∧ view.discount = c.discount

theorem ensures_check (code : String) (request : EligibilityRequest) (now : Instant) (t : Scene) :
    (Eligibility.check code request now).Ensures (coupon script)
      (Does (Shows (RuleOf code t.stores)) t) t := by
  refine ensures_store (.refl t) fun t₁ looked => ?_
  cases found : t.stores.ledger.getByCode code with
  | error e =>
    simp only [Ledger.answer, found]
    exact ⟨_, _, .failed _ _ (.ofStore e), looked⟩
  | ok c =>
    simp only [Ledger.answer, found]
    refine (ensures_checkFound c code request now t₁).mono ?_
    rintro r t₂ ⟨_, _, ⟨rfl, rfl, rule⟩, leads⟩
    rw [looked.stores] at leads
    exact ⟨_, _, ⟨rfl, rfl, fun view shown => ⟨c, found, rule view shown⟩⟩, looked.trans leads⟩

/-- A look-up changes nothing; a check that counts is counted by its outcome. -/
inductive Checked (code : String) (request : EligibilityRequest) (s : Stores) :
    Except CouponError CouponView → Stores → List Counter → Prop where
  | failed (e : CouponError) : Checked code request s (.error e) s []
  | shown (view : CouponView) (unenforced : request.enforce = false) :
      Checked code request s (.ok view) s []
  | judged (view : CouponView) (enforced : request.enforce = true) (rule : RuleOf code s view) :
      Checked code request s (.ok view) s [.eligibilityChecks view.canUse]

theorem ensures_retrieveCoupon (code : String) (request : EligibilityRequest) (t : Scene) :
    (Service.retrieveCoupon code request).Ensures (coupon script) (Does (Checked code request) t) t := by
  refine ensures_now (.refl t) fun n t₁ timed => ?_
  refine (ensures_check code request (script n).time t₁).bind ?_
  rintro (e | view) t₂ ⟨_, _, ⟨rfl, rfl, rule⟩, leads⟩
  · rw [timed.stores] at leads
    exact ⟨_, _, .failed e, timed.trans leads⟩
  · have known := rule view rfl
    rw [timed.stores] at leads known
    have so := timed.trans leads
    dsimp only
    split
    · next enforced =>
      exact ensures_count so fun t₃ counted => ⟨_, _, .judged view enforced known, counted⟩
    · next unenforced => exact ⟨_, _, .shown view (by simpa using unenforced), so⟩

/-! ## The redemption -/

/-- An application takes a use of the coupon with the code, or is rejected, and is counted as one or the
other. An unknown code is neither. -/
inductive Applied (script : HostScript) (caller : Identity) (code : String)
    (productId : Option ProductId) (s : Stores) :
    Except CouponError RedemptionRecord → Stores → List Counter → Prop where
  | unknown (e : StoreError) (missing : s.ledger.getByCode code = .error e) :
      Applied script caller code productId s (.error (.ofStore e)) s []
  | inactive (c : Coupon) (found : s.ledger.getByCode code = .ok c) (e : CouponError) :
      Applied script caller code productId s (.error e) s [.redemptionsRejected .inactive]
  | refused (c : Coupon) (found : s.ledger.getByCode code = .ok c) (e : CouponError) :
      Applied script caller code productId s (.error e) s [.redemptionsRejected (.failed e.kind)]
  | redeemed (c : Coupon) (found : s.ledger.getByCode code = .ok c) (n : Nat)
      (active : c.isActiveAt (script n).time = true) (r : RedemptionRecord) (l : Ledger)
      (made : s.ledger.redeem c caller.userId productId (script n).time = (.ok r, l)) :
      Applied script caller code productId s (.ok r) { s with ledger := l } [.redemptions]

theorem ensures_applyFound {caller : Identity} {code : String} {productId : Option ProductId} {c : Coupon}
    {t : Scene} (found : t.stores.ledger.getByCode code = .ok c) :
    (Service.applyFound c caller code productId).Ensures (coupon script)
      (Does (Applied script caller code productId) t) t := by
  refine ensures_now (.refl t) fun n t₁ timed => ?_
  split
  · exact ensures_count timed fun t₂ counted => ⟨_, _, .inactive c found _, counted⟩
  · next active =>
    refine ensures_store timed fun t₂ asked => ?_
    cases made : t.stores.ledger.redeem c caller.userId productId (script n).time with
    | mk answer l =>
      simp only [Ledger.answer, made] at asked ⊢
      cases answer with
      | error e =>
        obtain rfl : l = t.stores.ledger := Ledger.redeem_eq_error made
        exact ensures_count asked fun t₃ counted => ensures_log counted fun t₄ logged =>
          ⟨_, _, .refused c found (.ofStore e), logged⟩
      | ok r =>
        exact ensures_count asked fun t₃ counted => ensures_log counted fun t₄ logged =>
          ⟨_, _, .redeemed c found n (by simpa using active) r l made, logged⟩

theorem ensures_applyCoupon (caller : Identity) (code : String) (productId : Option ProductId)
    (t : Scene) : (Service.applyCoupon caller code productId).Ensures (coupon script)
      (Does (Applied script caller code productId) t) t := by
  refine ensures_store (.refl t) fun t₁ looked => ?_
  have same : t₁.stores = t.stores := looked.stores
  cases found : t.stores.ledger.getByCode code with
  | error e =>
    simp only [Ledger.answer, found]
    exact ⟨_, _, .unknown e found, looked⟩
  | ok c =>
    simp only [Ledger.answer, found]
    refine (ensures_applyFound (by rw [same]; exact found)).mono ?_
    rintro r t₂ ⟨s, raised, applied, leads⟩
    rw [same] at applied
    exact ⟨s, raised, applied, looked.trans leads⟩

/-! ## Administration -/

/-- A coupon is created and counted, or nothing is done. -/
inductive Created (s : Stores) : Except CouponError CreatedCoupon → Stores → List Counter → Prop where
  | refused (e : CouponError) : Created s (.error e) s []
  | created (c : NewCoupon) (id : CouponId) (l : Ledger)
      (made : s.ledger.createCoupon c = (.ok id, l)) :
      Created s (.ok ⟨id, c.code⟩) { s with ledger := l } [.couponsCreated]

/-- The coupon that was asked for is created under one of the codes that were tried, or nothing is done. -/
inductive Issued (request : CreateCoupon) (creator : UserId) (s : Stores) :
    Except CouponError CreatedCoupon → Stores → List Counter → Prop where
  | refused (e : CouponError) : Issued request creator s (.error e) s []
  | created (code : String) (now : Instant) (id : CouponId) (l : Ledger)
      (made : s.ledger.createCoupon (request.toNewCoupon code creator now) = (.ok id, l)) :
      Issued request creator s (.ok ⟨id, code⟩) { s with ledger := l } [.couponsCreated]

theorem Issued.toCreated {request : CreateCoupon} {creator : UserId} {s s' : Stores}
    {r : Except CouponError CreatedCoupon} {raised : List Counter}
    (issued : Issued request creator s r s' raised) : Created s r s' raised := by
  cases issued with
  | refused e => exact .refused e
  | created code now id l made => exact .created _ id l made

theorem ensures_draw (n : Nat) (t : Scene) :
    (Code.draw n).Ensures (coupon script) (Does Nothing t) t := by
  induction n generalizing t with
  | zero => exact does_nothing (.refl t) _
  | succ n ih =>
    refine ensures_letter (.refl t) fun letter t₁ drawn => (ih t₁).bind ?_
    rintro rest t₂ ⟨_, _, ⟨rfl, rfl⟩, leads⟩
    rw [drawn.stores] at leads
    exact does_nothing (drawn.trans leads) _

theorem ensures_generate (start : String) (now : Instant) (t : Scene) :
    (Code.generate start now).Ensures (coupon script) (Does Nothing t) t := by
  refine (ensures_draw Code.suffixLength t).bind ?_
  rintro letters t₁ ⟨_, _, ⟨rfl, rfl⟩, leads⟩
  exact does_nothing leads _

/-- The induction is on the attempts that are left: one that fails leaves the stores as they are. -/
theorem ensures_tryCodes (request : CreateCoupon) (creator : UserId) (code : String) (now : Instant)
    (left : Nat) {t₀ t : Scene} (so : t₀.Leads t₀.stores [] t) :
    (Service.tryCodes now left (request.toNewCoupon code creator now)).Ensures (coupon script)
      (Does (Issued request creator) t₀) t := by
  induction left generalizing code t with
  | zero => exact ⟨_, _, .refused _, so⟩
  | succ left ih =>
    refine ensures_store so fun t₁ asked => ?_
    cases made : t₀.stores.ledger.createCoupon (request.toNewCoupon code creator now) with
    | mk answer l =>
      simp only [Ledger.answer, made] at asked ⊢
      cases answer with
      | ok id =>
        exact ensures_count asked fun t₂ counted => ensures_log counted fun t₃ logged =>
          ⟨_, _, .created code now id l made, logged⟩
      | error e =>
        obtain rfl : l = t₀.stores.ledger := Ledger.answer_eq_error (c := .createCoupon _) made
        split
        · next impossible => cases impossible
        · refine ensures_log asked fun t₂ logged => (ensures_generate Code.start now t₂).bind ?_
          rintro code' t₃ ⟨_, _, ⟨rfl, rfl⟩, leads⟩
          rw [logged.stores] at leads
          exact ih code' (logged.trans leads)
        · exact ⟨_, _, .refused _, asked⟩

/-- A creation creates what was asked for, or nothing. -/
theorem ensures_issued (caller : Identity) (request : CreateCoupon) (t : Scene) :
    (Service.createCoupon caller request).Ensures (coupon script) (Does (Issued request caller.userId) t)
      t := by
  unfold Service.createCoupon
  split
  · exact ⟨_, _, .refused _, .refl t⟩
  · refine ensures_now (.refl t) fun n t₁ timed => (ensures_generate Code.start _ t₁).bind ?_
    rintro code t₂ ⟨_, _, ⟨rfl, rfl⟩, leads⟩
    rw [timed.stores] at leads
    have so := timed.trans leads
    dsimp only
    split
    · exact ⟨_, _, .refused _, so⟩
    · exact ensures_tryCodes request caller.userId code _ _ so

theorem ensures_createCoupon (caller : Identity) (request : CreateCoupon) (t : Scene) :
    (Service.createCoupon caller request).Ensures (coupon script) (Does Created t) t := by
  refine (ensures_issued caller request t).mono ?_
  rintro r t' ⟨s, raised, issued, leads⟩
  exact ⟨s, raised, issued.toCreated, leads⟩

/-- A coupon is deleted, or nothing is done. -/
inductive Deleted (id : CouponId) (s : Stores) :
    Except CouponError Unit → Stores → List Counter → Prop where
  | refused (e : CouponError) : Deleted id s (.error e) s []
  | deleted (l : Ledger) (gone : s.ledger.deleteCoupon id = (.ok (), l)) :
      Deleted id s (.ok ()) { s with ledger := l } []

theorem ensures_deleteCoupon (caller : Identity) (id : CouponId) (t : Scene) :
    (Service.deleteCoupon caller id).Ensures (coupon script) (Does (Deleted id) t) t := by
  unfold Service.deleteCoupon
  split
  · exact ⟨_, _, .refused _, .refl t⟩
  · refine ensures_store (.refl t) fun t₁ asked => ?_
    cases gone : t.stores.ledger.deleteCoupon id with
    | mk answer l =>
      simp only [Ledger.answer, gone] at asked ⊢
      cases answer with
      | error e =>
        obtain rfl : l = t.stores.ledger := Ledger.answer_eq_error (c := .deleteCoupon id) gone
        exact ⟨_, _, .refused _, asked⟩
      | ok _ => exact ensures_log asked fun t₂ logged => ⟨_, _, .deleted l gone, logged⟩

end Scene

end Couponry
