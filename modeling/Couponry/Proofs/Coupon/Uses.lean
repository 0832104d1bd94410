import Couponry.Proofs.Coupon.Check
import Couponry.Proofs.Coupon.Operations
import Couponry.Proofs.Ledger.Continuation

/-!
# What a call for a use comes to

To apply a coupon or to check it by its rules, the service first looks its code up, and then goes by the
id and the scope of what it has found. Anybody may call the store in between, so the second call finds
another ledger. `Tries` says how the call ends, given the ledgers that its calls have found, whatever they
are; which of its cases are possible is known only of ledgers that go on from each other.
-/

namespace Couponry

open Ledger (CounterKey counterKey)

namespace Program

variable {α β : Type}

/-- Whatever ledgers answer the calls to the store, this holds of them and of the value at the end. -/
def Finds (ends : List Ledger → α → Prop) : Program CouponCalls α → Prop
  | .done a => ends [] a
  | .ask (.store c) next => ∀ l, (next (Ledger.answer c l).1).Finds fun found => ends (l :: found)
  | .ask (.host _) next => ∀ answer, (next answer).Finds ends

/-- One program after another. -/
theorem Finds.bind {mid : List Ledger → α → Prop} {ends : List Ledger → β → Prop}
    {p : Program CouponCalls α} {f : α → Program CouponCalls β} (first : p.Finds mid)
    (second : ∀ found a, mid found a → (f a).Finds fun more => ends (found ++ more)) :
    (p >>= f).Finds ends := by
  induction p generalizing mid ends with
  | done a => exact second [] a first
  | ask c next ih =>
    cases c with
    | store c => exact fun l => ih _ (first l) fun found => second (l :: found)
    | host c => exact fun answer => ih answer (first answer) second

/-- After one program there is nothing more to find. -/
theorem finds_pure {ends : List Ledger → α → Prop} {found : List Ledger} {a : α} (holds : ends found a) :
    (pure a : Program CouponCalls α).Finds fun more => ends (found ++ more) := by
  show ends (found ++ []) a
  rw [List.append_nil]
  exact holds

section Calls

variable {ends : List Ledger → α → Prop}

theorem finds_store {c : StoreCall} {f : c.Answer → CouponProgram α}
    (rest : ∀ l, (f (Ledger.answer c l).1).Finds fun found => ends (l :: found)) :
    (CouponProgram.store c >>= f).Finds ends :=
  rest

theorem finds_now {f : Instant → CouponProgram α} (rest : ∀ now, (f now).Finds ends) :
    (CouponProgram.now >>= f).Finds ends :=
  rest

theorem finds_log {e : Event} {f : Unit → CouponProgram α} (rest : (f ()).Finds ends) :
    (CouponProgram.log e >>= f).Finds ends :=
  fun _ => rest

theorem finds_count {c : Counter} {f : Unit → CouponProgram α} (rest : (f ()).Finds ends) :
    (CouponProgram.count c >>= f).Finds ends :=
  fun _ => rest

end Calls

end Program

/-! ## Uses -/

/-- A use of the coupon with a code that is asked for. -/
structure Use where
  code : String
  request : EligibilityRequest

/-- The use that a call asks for, be it to take it or to learn whether it may be taken. -/
def ServiceCall.use? : ServiceCall → Option Use
  | .apply caller code productId => some ⟨code, .enforceFor caller.userId productId⟩
  | .check code request => if request.enforce then some ⟨code, request⟩ else none
  | .create _ _ | .delete _ _ => none

/-- How a call ended: well, or with an error of a kind. -/
def outcome {α : Type} : Except CouponError α → Except ErrorKind Unit
  | .ok _ => .ok ()
  | .error e => .error e.kind

/-- The coupon may be used, or may not be used now. -/
def OkOrFailedPrecondition (verdict : Except ErrorKind Unit) : Prop :=
  verdict = .ok () ∨ verdict = .error .failedPrecondition

/-- The kind of error when the counter of a coupon is not there. -/
def Ledger.lossKind (l : Ledger) (c : Coupon) : ErrorKind :=
  if c.scope = .limited ∧ l.coupons.get? c.id = none then .notFound else .internal

/-- How a call for a use ends, by the ledgers that its calls to the store have found. -/
inductive Tries (use : Use) : List Ledger → Except ErrorKind Unit → Prop where
  | unknown (l : Ledger) (e : StoreError) (missing : l.getByCode use.code = .error e) :
      Tries use [l] (.error (CouponError.ofStore e).kind)
  /-- What was found tells enough. -/
  | judged (l : Ledger) (c : Coupon) (found : l.getByCode use.code = .ok c)
      (verdict : Except ErrorKind Unit) (either : OkOrFailedPrecondition verdict) : Tries use [l] verdict
  /-- What was found lacks its own counter. -/
  | bare (l : Ledger) (c : Coupon) (found : l.getByCode use.code = .ok c) (limited : c.scope = .limited)
      (without : c.usage = none) (verdict : Except ErrorKind Unit) : Tries use [l] verdict
  /-- The use lacks what the scope counts by. -/
  | unnamed (l : Ledger) (later : List Ledger) (c : Coupon) (found : l.getByCode use.code = .ok c)
      (nameless : use.request.counterKey? c = none) (verdict : Except ErrorKind Unit) :
      Tries use (l :: later) verdict
  | counted (l l' : Ledger) (c : Coupon) (found : l.getByCode use.code = .ok c) (key : CounterKey)
      (named : use.request.counterKey? c = some key) (u : Usage) (counted : l'.counter? key = some u)
      (verdict : Except ErrorKind Unit) (either : OkOrFailedPrecondition verdict) : Tries use [l, l'] verdict
  | gone (l l' : Ledger) (c : Coupon) (found : l.getByCode use.code = .ok c) (key : CounterKey)
      (named : use.request.counterKey? c = some key) (missing : l'.counter? key = none) :
      Tries use [l, l'] (.error (l'.lossKind c))
  | failing (l l' : Ledger) (failing : l'.failOnRedeem = true) (verdict : Except ErrorKind Unit) :
      Tries use [l, l'] verdict

section Uses

variable {use : Use} {c : Coupon} {key : CounterKey} {l l' : Ledger}

theorem counter?_of_usage_eq_error {e : StoreError} (lost : l.usage key = .error e) :
    l.counter? key = none := by
  cases counted : l.counter? key with
  | none => rfl
  | some u =>
    rw [Ledger.usage_eq_ok_iff.2 counted] at lost
    cases lost

/-- Which error it is depends on the table in which the counter was looked for. -/
theorem kind_of_usage_eq_error {request : EligibilityRequest} {e : StoreError}
    (named : request.counterKey? c = some key) (lost : l.usage key = .error e) :
    (CouponError.ofStore e).kind = l.lossKind c := by
  unfold Ledger.lossKind
  unfold EligibilityRequest.counterKey? at named
  cases scope : c.scope with
  | limited =>
    simp only [scope, Option.some.injEq] at named
    subst named
    simp only [Ledger.usage] at lost
    cases stored : l.coupons.get? c.id with
    | none =>
      simp only [stored] at lost
      cases lost
      rfl
    | some c' =>
      simp only [stored] at lost
      split at lost
      · cases lost
      · cases lost
        rfl
  | user =>
    simp only [scope, Option.map_eq_some_iff] at named
    obtain ⟨userId, -, rfl⟩ := named
    simp only [Ledger.usage] at lost
    split at lost
    · cases lost
    · cases lost
      rfl
  | product =>
    simp only [scope, Option.map_eq_some_iff] at named
    obtain ⟨productId, -, rfl⟩ := named
    simp only [Ledger.usage] at lost
    split at lost
    · cases lost
    · cases lost
      rfl

/-! ## Applications -/

theorem tries_redeem {code : String} {userId : UserId} {productId : Option ProductId} {time : Instant}
    {r : Except StoreError RedemptionRecord} (found : l.getByCode code = .ok c)
    (asked : (l'.redeem c userId productId time).1 = r) :
    Tries ⟨code, .enforceFor userId productId⟩ [l, l'] (outcome (r.mapError CouponError.ofStore)) := by
  have named := EligibilityRequest.counterKey?_enforceFor userId productId c
  subst asked
  cases on : l'.failOnRedeem with
  | true => exact .failing l l' on _
  | false =>
    cases counts : counterKey c.scope c.id userId productId with
    | error e => exact .unnamed l [l'] c found (by rw [named, counts]; rfl) _
    | ok key =>
      rw [counts] at named
      cases counter : l'.usage key with
      | error e =>
        rw [Ledger.redeem_of_uncounted on counts counter]
        show Tries _ _ (.error (CouponError.ofStore e).kind)
        rw [kind_of_usage_eq_error named counter]
        exact .gone l l' c found key named (counter?_of_usage_eq_error counter)
      | ok u =>
        have counted := Ledger.usage_eq_ok_iff.1 counter
        refine .counted l l' c found key named u counted _ ?_
        cases exhausted : u.isExhausted with
        | true =>
          rw [Ledger.redeem_of_exhausted on counts counted exhausted]
          exact .inr rfl
        | false =>
          rw [Ledger.redeem_of_left on counts counted exhausted]
          exact .inl rfl

theorem finds_applyCoupon (caller : Identity) (code : String) (productId : Option ProductId) :
    (Service.applyCoupon caller code productId).Finds fun found r =>
      Tries ⟨code, .enforceFor caller.userId productId⟩ found (outcome r) := by
  refine Program.finds_store fun l => ?_
  cases found : l.getByCode code with
  | error e =>
    simp only [Ledger.answer, found]
    exact .unknown l e found
  | ok c =>
    simp only [Ledger.answer, found]
    refine Program.finds_now fun now => ?_
    split
    · exact Program.finds_count (.judged l c found _ (.inr rfl))
    · refine Program.finds_store fun l' => ?_
      simp only [Ledger.answer]
      cases asked : (l'.redeem c caller.userId productId now).1 with
      | error e => exact Program.finds_count (Program.finds_log (tries_redeem found asked))
      | ok r => exact Program.finds_count (Program.finds_log (tries_redeem found asked))

/-! ## Checks -/

/-- A missing grant is taken for an inconsistent store. -/
theorem Tries.missed (found : l.getByCode use.code = .ok c) (named : use.request.counterKey? c = some key)
    (missing : l'.counter? key = none) (subject : c.scope ≠ .limited) :
    Tries use [l, l'] (.error .internal) := by
  have tries := Tries.gone l l' c found key named missing
  rwa [Ledger.lossKind, if_neg fun both => subject both.1] at tries

theorem finds_scopeUsage {code : String} {request : EligibilityRequest} (found : l.getByCode code = .ok c) :
    (Eligibility.scopeUsage c request).Finds fun more usage =>
      (∃ u, usage = .ok u ∧ ∀ verdict, OkOrFailedPrecondition verdict →
        Tries ⟨code, request⟩ (l :: more) verdict) ∨
      ∃ e, usage = .error e ∧
        Tries ⟨code, request⟩ (l :: more) (.error e.kind) := by
  unfold Eligibility.scopeUsage
  cases scope : c.scope with
  | limited =>
    show (Pure.pure _ : CouponProgram _).Finds _
    unfold Eligibility.limitedUsage
    split
    · exact .inl ⟨_, rfl, fun verdict => .judged l c found verdict⟩
    · next without => exact .inr ⟨_, rfl, .bare l c found scope without _⟩
  | user =>
    cases subject : request.userId with
    | none =>
      exact .inr ⟨_, rfl, .unnamed l [] c found
        (by simp [EligibilityRequest.counterKey?, scope, subject]) _⟩
    | some userId =>
      have named : request.counterKey? c = some (.user c.id userId) := by
        simp [EligibilityRequest.counterKey?, scope, subject]
      refine Program.finds_store fun l' => ?_
      cases stored : l'.userGrants.get? (c.id, userId) with
      | none =>
        simp only [Ledger.answer, stored]
        exact .inr ⟨_, rfl, .missed found named (by simp [Ledger.counter?, stored]) (by simp [scope])⟩
      | some g =>
        simp only [Ledger.answer, stored]
        exact .inl ⟨_, rfl, fun verdict => .counted l l' c found _ named g.usage
          (by simp [Ledger.counter?, stored]) verdict⟩
  | product =>
    cases subject : request.productId with
    | none =>
      exact .inr ⟨_, rfl, .unnamed l [] c found
        (by simp [EligibilityRequest.counterKey?, scope, subject]) _⟩
    | some productId =>
      have named : request.counterKey? c = some (.product c.id productId) := by
        simp [EligibilityRequest.counterKey?, scope, subject]
      refine Program.finds_store fun l' => ?_
      cases stored : l'.productGrants.get? (c.id, productId) with
      | none =>
        simp only [Ledger.answer, stored]
        exact .inr ⟨_, rfl, .missed found named (by simp [Ledger.counter?, stored]) (by simp [scope])⟩
      | some g =>
        simp only [Ledger.answer, stored]
        exact .inl ⟨_, rfl, fun verdict => .counted l l' c found _ named g.usage
          (by simp [Ledger.counter?, stored]) verdict⟩

theorem finds_check (code : String) (request : EligibilityRequest) (enforced : request.enforce = true)
    (now : Instant) : (Eligibility.check code request now).Finds fun found r =>
      Tries ⟨code, request⟩ found (outcome r) := by
  refine Program.finds_store fun l => ?_
  cases found : l.getByCode code with
  | error e =>
    simp only [Ledger.answer, found]
    exact .unknown l e found
  | ok c =>
    simp only [Ledger.answer, found, Eligibility.checkFound, enforced]
    split
    · next impossible => cases impossible
    · split
      · exact Program.finds_log (.judged l c found _ (.inl rfl))
      · refine (finds_scopeUsage found).bind ?_
        rintro more usage (⟨u, rfl, tried⟩ | ⟨e, rfl, tried⟩)
        · have judged := tried (.ok ()) (.inl rfl)
          dsimp only
          split
          · exact Program.finds_log (Program.finds_pure judged)
          · exact Program.finds_pure judged
        · exact Program.finds_pure tried

theorem finds_retrieveCoupon (code : String) (request : EligibilityRequest)
    (enforced : request.enforce = true) :
    (Service.retrieveCoupon code request).Finds fun found r =>
      Tries ⟨code, request⟩ found (outcome r) := by
  refine Program.finds_now fun now => (finds_check code request enforced now).bind ?_
  rintro found (e | view) tried
  · exact Program.finds_pure tried
  · dsimp only
    rw [if_pos enforced]
    exact Program.finds_count (Program.finds_pure tried)

/-- Every call for a use ends in one of the ways, and every other call is none for a use. -/
theorem finds_program {call : ServiceCall} (asks : call.use? = some use) :
    call.program.Finds fun found r => Tries use found (outcome r) := by
  cases call with
  | create | delete => cases asks
  | apply caller code productId =>
    cases asks
    exact finds_applyCoupon caller code productId
  | check code request =>
    simp only [ServiceCall.use?] at asks
    split at asks
    · next enforced =>
      cases asks
      exact finds_retrieveCoupon code request enforced
    · cases asks

end Uses

end Couponry
