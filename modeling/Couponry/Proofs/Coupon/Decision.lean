import Couponry.Proofs.Coupon.Check
import Couponry.Proofs.Ledger.WellFormed
import Couponry.Proofs.Program.Conversation

/-!
# What the check of a coupon comes to

The check of a coupon by every possible content of the store, also one that no calls lead to. It depends on
the coupon that the code leads to and on the counter that the scope of this coupon puts the request under,
and on nothing else: `verdict` is its outcome as a function of these two. `eligibility_decided` says which
outcome comes when.
-/

namespace Couponry

/-- A call of the coupon component with its answer. -/
abbrev CouponExchange : Type :=
  Exchange CouponCalls.Answer

/-- The reply of the store, if it was called. -/
def storeReply? : CouponExchange → Option Reply
  | ⟨.store c, answer⟩ => some ⟨c, answer⟩
  | ⟨.host _, _⟩ => none

/-- The replies of the store in a conversation. -/
def storeReplies (log : List CouponExchange) : List Reply :=
  log.filterMap storeReply?

namespace Ledger

/-- A coupon is shown as it is stored, with a counter and with whether it can be used. -/
structure Shows (c : Coupon) (usage : Option Usage) (canUse : Bool) (view : CouponView) : Prop where
  code : view.code = c.code
  discount : view.discount = c.discount
  scope : view.scope = c.scope
  validFrom : view.validFrom = c.validFrom
  validTo : view.validTo = c.validTo
  usage : view.usage = usage
  description : view.description = c.description
  imageUrl : view.imageUrl = c.imageUrl
  canUse : view.canUse = canUse

/-- The outcome of the check of a code. -/
structure Decided (l : Ledger) (code : String) (request : EligibilityRequest) (now : Instant)
    (answer : Except CouponError CouponView) : Prop where
  unknown : (∃ e, answer = .error e ∧ e.kind = .notFound) ↔ l.couponOf? code = none
  /-- Without a check there is always an answer, and it is positive. -/
  shown : ∀ c, l.couponOf? code = some c → request.enforce = false →
    ∃ view, answer = .ok view ∧ Shows c (l.limit c request).join true view
  /-- Out of the window the coupon is shown with its own counter. -/
  outside : ∀ c, l.couponOf? code = some c → request.enforce = true →
    ¬(c.validFrom ≤ now ∧ now < c.validTo) → ∃ view, answer = .ok view ∧ Shows c c.usage false view
  /-- In the window the counter decides. -/
  counted : ∀ c u, l.couponOf? code = some c → request.enforce = true →
    c.validFrom ≤ now → now < c.validTo → l.limit c request = some (some u) →
    ∃ view, answer = .ok view ∧ Shows c (some u) (decide (u.used < u.total)) view
  unasked : (∃ e, answer = .error e ∧ e.kind = .invalidArgument) ↔ ∃ c, l.couponOf? code = some c ∧
    request.enforce = true ∧ (c.validFrom ≤ now ∧ now < c.validTo) ∧ l.limit c request = none
  missing : (∃ e, answer = .error e ∧ e.kind = .internal) ↔ ∃ c, l.couponOf? code = some c ∧
    request.enforce = true ∧ (c.validFrom ≤ now ∧ now < c.validTo) ∧ l.limit c request = some none
  /-- What is shown is the stored coupon. -/
  stored : ∀ view, answer = .ok view →
    ∃ c, l.couponOf? code = some c ∧ Shows c view.usage view.canUse view

/-! ## What the outcome means -/

variable {l : Ledger} (host : HostAnswers) {c : Coupon} {code : String} {request : EligibilityRequest}
  {now : Instant}

theorem shows_view (c : Coupon) (usage : Option Usage) (canUse : Bool) :
    Shows c usage canUse (c.view usage canUse) :=
  ⟨rfl, rfl, rfl, rfl, rfl, rfl, rfl, rfl, rfl⟩

/-- A check fails in one way only, and only when it has come to the counter. -/
theorem verdict_eq_error_iff {limit : Option (Option Usage)} {e : CouponError} :
    c.verdict request now limit = .error e ↔
      request.enforce = true ∧ c.isActiveAt now = true ∧ limit.join = none ∧ e = c.complaint request := by
  unfold Coupon.verdict
  cases request.enforce with
  | false => simp
  | true =>
    cases c.isActiveAt now with
    | false => simp
    | true =>
      obtain _ | _ | u := limit
      · simp [eq_comm]
      · simp [eq_comm]
      · simp

/-- A check of a coupon fails for want of its subject or of its counter. -/
theorem verdict_fails_iff {k : ErrorKind} {limit : Option (Option Usage)} :
    (∃ e, c.verdict request now limit = .error e ∧ e.kind = k) ↔
      request.enforce = true ∧ (c.validFrom ≤ now ∧ now < c.validTo) ∧ limit.join = none ∧
        (c.complaint request).kind = k := by
  simp only [verdict_eq_error_iff, Coupon.isActiveAt_iff]
  constructor
  · rintro ⟨_, ⟨enforced, active, lost, rfl⟩, kind⟩
    exact ⟨enforced, active, lost, kind⟩
  · rintro ⟨enforced, active, lost, kind⟩
    exact ⟨_, ⟨enforced, active, lost, rfl⟩, kind⟩

theorem lacks_subject_iff : (l.limit c request).join = none ∧ (c.complaint request).kind = .invalidArgument ↔
    l.limit c request = none := by
  rw [kind_complaint]
  obtain _ | _ | u := l.limit c request <;> simp

theorem lacks_counter_iff : (l.limit c request).join = none ∧ (c.complaint request).kind = .internal ↔
    l.limit c request = some none := by
  rw [kind_complaint]
  obtain _ | _ | u := l.limit c request <;> simp

/-- The outcome is right for what the code leads to. -/
theorem decided_of_verdict (l : Ledger) (code : String) (request : EligibilityRequest) (now : Instant) :
    Decided l code request now
      (match l.couponOf? code with
        | none => .error (.notFound code)
        | some c => c.verdict request now (l.limit c request)) := by
  cases found : l.couponOf? code with
  | none =>
    constructor
    · exact iff_of_true ⟨_, rfl, rfl⟩ found
    · simp [found]
    · simp [found]
    · simp [found]
    · simp [found, CouponError.kind]
    · simp [found, CouponError.kind]
    · simp
  | some c =>
    have kind := kind_complaint (l := l) c request
    constructor
    · refine iff_of_false (fun failed => ?_) (by simp [found])
      obtain ⟨-, -, -, same⟩ := verdict_fails_iff.1 failed
      rw [kind] at same
      split at same <;> cases same
    · rw [found]
      rintro _ ⟨⟩ unenforced
      exact ⟨_, by simp [Coupon.verdict, unenforced], shows_view c _ _⟩
    · rw [found]
      rintro _ ⟨⟩ enforced outside
      exact ⟨_, by simp [Coupon.verdict, enforced, mt Coupon.isActiveAt_iff.1 outside], shows_view c _ _⟩
    · rw [found]
      rintro _ u ⟨⟩ enforced started running counted
      have left : (!u.isExhausted) = decide (u.used < u.total) := by
        rw [Usage.isExhausted, ← decide_not]
        exact decide_eq_decide.2 Int.not_le
      refine ⟨c.view (some u) (!u.isExhausted), ?_, left ▸ shows_view c _ _⟩
      simp [Coupon.verdict, enforced, Coupon.isActiveAt_iff.2 ⟨started, running⟩, counted]
    · simp only [verdict_fails_iff, found, Option.some.injEq, exists_eq_left', lacks_subject_iff]
    · simp only [verdict_fails_iff, found, Option.some.injEq, exists_eq_left', lacks_counter_iff]
    · intro view shown
      obtain ⟨usage, canUse, rfl, -⟩ := view_of_verdict shown
      exact ⟨c, found, shows_view c usage canUse⟩

/-! ## The whole check -/

/-- Out of the window nothing is asked but for the coupon. -/
theorem storeReplies_check_of_outside (found : l.couponOf? code = some c) (enforced : request.enforce = true)
    (outside : ¬(c.validFrom ≤ now ∧ now < c.validTo)) :
    storeReplies ((Eligibility.check code request now).conversation (serve host) l) =
      [⟨.getByCode code, .ok c⟩] := by
  have inactive : c.isActiveAt now = false := by
    rw [← Bool.not_eq_true, Coupon.isActiveAt_iff]
    exact outside
  have looked : l.getByCode code = .ok c := getByCode_eq_ok_iff.2 found
  have asked (f : (StoreCall.getByCode code).Answer → CouponProgram (Except CouponError CouponView)) :
      (CouponProgram.store (.getByCode code) >>= f).conversation (serve host) l =
        ⟨.store (.getByCode code), l.getByCode code⟩ ::
          (f (l.getByCode code)).conversation (serve host) l := rfl
  simp only [Eligibility.check, asked, looked, Eligibility.checkFound, enforced, inactive, Bool.not_true,
    Bool.not_false, Bool.false_eq_true, if_false, if_true]
  rfl

/-- By the ledgers that calls lead to, a code leads to the coupon that has it. -/
theorem WellFormed.couponOf?_eq_none_iff (formed : l.WellFormed) :
    l.couponOf? code = none ↔ ∀ id c, l.coupons.get? id = some c → c.code ≠ code := by
  constructor
  · rintro none id c stored rfl
    have known : l.codes.get? c.code = some id :=
      (formed.codes _ _).2 ⟨c.definition, definition?_of_stored stored, rfl⟩
    rw [couponOf?, known, Option.bind_some, stored] at none
    cases none
  · intro nobody
    cases found : l.couponOf? code with
    | none => rfl
    | some c =>
      obtain ⟨id, known, stored⟩ := Option.bind_eq_some_iff.1 found
      obtain ⟨d, defined, named⟩ := (formed.codes _ _).1 known
      rw [definition?_of_stored stored] at defined
      cases defined
      exact absurd named (nobody id c stored)

/-- What there is to know of the check of a coupon by a ledger. -/
structure Checks (host : HostAnswers) (l : Ledger) (code : String) (request : EligibilityRequest)
    (now : Instant) : Prop where
  /-- Nothing is changed. -/
  unchanged : (perform host (Eligibility.check code request now) l).2 = l
  decided : Decided l code request now (perform host (Eligibility.check code request now) l).1
  /-- By the ledgers that calls lead to, the code of a coupon leads to this coupon. -/
  named : l.Reachable →
    (l.couponOf? code = none ↔ ∀ id c, l.coupons.get? id = some c → c.code ≠ code)
  /-- Out of the window no grant is asked for. -/
  early : ∀ c, l.couponOf? code = some c → request.enforce = true →
    ¬(c.validFrom ≤ now ∧ now < c.validTo) →
    storeReplies ((Eligibility.check code request now).conversation (serve host) l) =
      [⟨.getByCode code, .ok c⟩]
  /-- The service checks at the time on its clock. -/
  served : perform host (Service.retrieveCoupon code request) l =
    perform host (Eligibility.check code request host.time) l
  /-- No other coupon and no other counter matters. -/
  others : ∀ host' l', couponOf? l' code = l.couponOf? code →
    (∀ c, l.couponOf? code = some c → limit l' c request = l.limit c request) →
    (perform host' (Eligibility.check code request now) l').1 =
      (perform host (Eligibility.check code request now) l).1

/-- **How the check of a coupon is decided**, whatever the store contains. -/
theorem eligibility_decided (host : HostAnswers) (l : Ledger) (code : String) (request : EligibilityRequest)
    (now : Instant) : Checks host l code request now where
  unchanged := by rw [perform_check]
  decided := by
    rw [perform_check]
    exact decided_of_verdict l code request now
  named reached := reached.wellFormed.couponOf?_eq_none_iff
  early c found enforced outside := storeReplies_check_of_outside host found enforced outside
  served := perform_retrieveCoupon host l code request
  others host' l' same limits := by
    rw [perform_check, perform_check, same]
    cases found : l.couponOf? code with
    | none => rfl
    | some c =>
      dsimp only
      rw [limits c found]

/-- A coupon whose grant is lost is still shown, but cannot be checked. -/
example :
    let c := { single with scope := .perUser ⟨2⟩ }.stored ⟨1⟩
    let l := { Ledger.empty with
      coupons := Table.empty.insert ⟨1⟩ c
      codes := Table.empty.insert "ONCE" ⟨1⟩ }
    let ask := fun request => (perform (.stopped ⟨5, 0⟩) (Eligibility.check "ONCE" request ⟨5, 0⟩) l).1
    ask ⟨some ⟨2⟩, none, false⟩ = .ok (c.view none true) ∧
      ∃ e, ask (.enforceFor ⟨2⟩ none) = .error e ∧ e.kind = .internal :=
  ⟨rfl, _, rfl, rfl⟩

end Ledger

end Couponry
