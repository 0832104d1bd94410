import Couponry.Proofs.Coupon.Check
import Couponry.Proofs.Ledger.Frame

/-!
# Applications of coupons that do not meet

An application of a coupon takes one use of it or changes nothing. What it decides by is the definition of
the coupon and one counter, so applications that move different counters do not notice each other:
`applications_atomic` says what an application changes, and that two such applications commute.
-/

namespace Couponry

open Ledger (CounterKey counterKey)

/-- An application of a coupon, with what the host answers meanwhile. -/
structure Application where
  caller : Identity
  code : String
  productId : Option ProductId
  host : HostAnswers

namespace Application

/-- What the application of a coupon does to a ledger. -/
def on (a : Application) (l : Ledger) : Except CouponError RedemptionRecord × Ledger :=
  Ledger.perform a.host (Service.applyCoupon a.caller a.code a.productId) l

/-- The application succeeds and takes a use from this counter. -/
def Moves (a : Application) (l : Ledger) (key : CounterKey) : Prop :=
  ∃ c r, l.couponOf? a.code = some c ∧
    CounterKey.of? c.id a.caller.userId a.productId c.scope = some key ∧ (a.on l).1 = .ok r

end Application

/-- One use of a coupon is taken: its counter has moved, and the use is recorded. -/
structure TakesOne (l : Ledger) (a : Application) (c : Coupon) (key : CounterKey) (u : Usage)
    (r : RedemptionRecord) (after : Ledger) : Prop where
  on : l.failOnRedeem = false
  found : l.couponOf? a.code = some c
  active : c.validFrom ≤ a.host.time ∧ a.host.time < c.validTo
  named : CounterKey.of? c.id a.caller.userId a.productId c.scope = some key
  counted : l.counter? key = some u
  left : u.used < u.total
  /-- The counter is the only thing that has changed, with the time of the use in a limited coupon. -/
  moved : l.Moved key ⟨u.used + 1, u.total⟩ a.host.time after
  record : r = ⟨l.lastRedemptionId + 1, c.id, a.caller.userId, a.productId, a.host.time⟩
  redemptions : after.redemptions = l.redemptions ++ [r]
  lastRedemptionId : after.lastRedemptionId = l.lastRedemptionId + 1

/-- Answers that are the same but for the number of a record. -/
inductive SameAnswer : Except CouponError RedemptionRecord → Except CouponError RedemptionRecord → Prop where
  | refused (e : CouponError) : SameAnswer (.error e) (.error e)
  | taken (r : RedemptionRecord) (number : Int) : SameAnswer (.ok { r with id := number }) (.ok r)

/-- The record that an application adds. -/
def added : Except CouponError RedemptionRecord → List RedemptionRecord
  | .ok r => [r]
  | .error _ => []

/-- Two applications come to the same in either order. -/
structure Commute (l : Ledger) (a b : Application) : Prop where
  /-- Each is answered as it would be alone. -/
  first : SameAnswer (a.on (b.on l).2).1 (a.on l).1
  second : SameAnswer (b.on (a.on l).2).1 (b.on l).1
  /-- The coupons and the grants after both are the same. -/
  goods : (b.on (a.on l).2).2.SameGoods (a.on (b.on l).2).2
  /-- The records stand in the order of the applications. -/
  history : (b.on (a.on l).2).2.redemptions =
    l.redemptions ++ added (a.on l).1 ++ added (b.on (a.on l).2).1
  history' : (a.on (b.on l).2).2.redemptions =
    l.redemptions ++ added (b.on l).1 ++ added (a.on (b.on l).2).1

theorem SameAnswer.refl (answer : Except CouponError RedemptionRecord) : SameAnswer answer answer := by
  cases answer with
  | error e => exact .refused e
  | ok r => exact .taken r r.id

namespace Application

variable {a b : Application} {l m : Ledger} {move : Ledger.Move}

/-- What an application would move, or why it fails. -/
def verdict (a : Application) (l : Ledger) : Except CouponError Ledger.Move :=
  match l.getByCode a.code with
  | .error e => .error (.ofStore e)
  | .ok c =>
    if c.isActiveAt a.host.time then
      (l.judge c a.caller.userId a.productId).mapError CouponError.ofStore
    else .error (.failedPrecondition s!"coupon {a.code} is outside its validity window")

/-- An application does what it decides, and nothing else. -/
theorem on_of_verdict (a : Application) (l : Ledger) : a.on l =
    match a.verdict l with
    | .error e => (.error e, l)
    | .ok move => (.ok (l.nextRecord move.couponId a.caller.userId a.productId a.host.time),
        l.carryOut move a.caller.userId a.productId a.host.time) := by
  simp only [on, verdict, Service.applyCoupon, Ledger.perform_bind, Ledger.perform_store, Ledger.answer]
  cases l.getByCode a.code with
  | error e => rfl
  | ok c =>
    simp only [Service.applyFound, Ledger.perform_bind, Ledger.perform_now]
    by_cases active : c.isActiveAt a.host.time = true
    · simp only [active, Bool.not_true, Bool.false_eq_true, if_false, if_true, Ledger.perform_bind,
        Ledger.perform_store, Ledger.answer, Ledger.redeem_of_judge]
      cases l.judge c a.caller.userId a.productId <;> rfl
    · simp only [active, Bool.not_false, if_true, if_false, Bool.false_eq_true, Ledger.perform_bind,
        Ledger.perform_count, Ledger.perform_pure]

theorem on_of_refused {e : CouponError} (refused : a.verdict l = .error e) : a.on l = (.error e, l) := by
  rw [on_of_verdict, refused]

theorem on_of_moved (judged : a.verdict l = .ok move) : a.on l =
    (.ok (l.nextRecord move.couponId a.caller.userId a.productId a.host.time),
      l.carryOut move a.caller.userId a.productId a.host.time) := by
  rw [on_of_verdict, judged]

/-- An application that has a counter to move has found a coupon that is active. -/
theorem verdict_eq_ok (judged : a.verdict l = .ok move) : ∃ c, l.getByCode a.code = .ok c ∧
    c.isActiveAt a.host.time = true ∧ l.judge c a.caller.userId a.productId = .ok move := by
  unfold verdict at judged
  cases found : l.getByCode a.code with
  | error e =>
    rw [found] at judged
    cases judged
  | ok c =>
    rw [found] at judged
    cases active : c.isActiveAt a.host.time with
    | false => simp [active] at judged
    | true =>
      simp only [active, if_true] at judged
      cases decided : l.judge c a.caller.userId a.productId with
      | error e =>
        rw [decided] at judged
        cases judged
      | ok other =>
        rw [decided] at judged
        cases judged
        exact ⟨c, rfl, active, decided⟩

theorem takesOne (judged : a.verdict l = .ok move) : ∃ c, TakesOne l a c move.key move.usage
    (l.nextRecord move.couponId a.caller.userId a.productId a.host.time) (a.on l).2 := by
  obtain ⟨c, found, active, decided⟩ := verdict_eq_ok judged
  obtain ⟨on, named, counted, left, own⟩ := Ledger.judge_eq_ok decided
  rw [on_of_moved judged]
  exact ⟨c, {
    on := on
    found := Ledger.getByCode_eq_ok_iff.1 found
    active := Coupon.isActiveAt_iff.1 active
    named := Ledger.counterKey_eq_ok_iff.1 named
    counted := counted
    left := by simpa [Usage.isExhausted] using left
    moved := (Ledger.sets_setUsage counted _ _).moved.addRedemption _
    record := by rw [Ledger.nextRecord, own]
    redemptions := congrArg (· ++ _) (Ledger.redemptions_setUsage _)
    lastRedemptionId := rfl }⟩

/-- An application adds the record that it answers. -/
theorem redemptions_on (a : Application) (l : Ledger) :
    (a.on l).2.redemptions = l.redemptions ++ added (a.on l).1 := by
  cases judged : a.verdict l with
  | error e =>
    rw [on_of_refused judged]
    exact (List.append_nil _).symm
  | ok move =>
    obtain ⟨_, one⟩ := takesOne judged
    rw [one.redemptions, on_of_moved judged]
    rfl

theorem moves (judged : a.verdict l = .ok move) : a.Moves l move.key := by
  obtain ⟨c, one⟩ := takesOne judged
  exact ⟨c, _, one.found, one.named, congrArg Prod.fst (on_of_moved judged)⟩

/-- **What an application decides stays as it is while others take their uses from other counters.** -/
theorem verdict_stable {c : Coupon} {key : CounterKey} {u : Usage} {r : RedemptionRecord}
    (one : TakesOne l b c key u r m) (apart : ∀ other, a.verdict l = .ok other → other.key ≠ key) :
    a.verdict m = a.verdict l := by
  have same := one.moved.getByCode a.code
  unfold verdict
  cases found : l.getByCode a.code with
  | error e =>
    rw [found] at same
    cases found' : m.getByCode a.code with
    | error e' =>
      rw [found'] at same
      cases same
      rfl
    | ok d =>
      rw [found'] at same
      cases same
  | ok c =>
    rw [found] at same
    cases found' : m.getByCode a.code with
    | error e' =>
      rw [found'] at same
      cases same
    | ok d =>
      rw [found'] at same
      have same : d.definition = c.definition := Except.ok.inj same
      dsimp only
      rw [Coupon.isActiveAt_congr same]
      cases active : c.isActiveAt a.host.time with
      | false => rfl
      | true =>
        -- with a use left in its counter, the application would have succeeded, too
        have other : counterKey c.scope c.id a.caller.userId a.productId ≠ .ok key := by
          intro again
          have left : u.isExhausted = false := by simpa [Usage.isExhausted] using one.left
          have decided := Ledger.judge_of_left one.on again one.counted left
          refine apart ⟨c.id, key, u⟩ ?_ rfl
          simp only [verdict, found, active, if_true, decided]
          rfl
        rw [one.moved.judge same other]

end Application

namespace Commute

variable {a b : Application} {l : Ledger}

/-- The records are in order anyway. -/
theorem of_goods (first : SameAnswer (a.on (b.on l).2).1 (a.on l).1)
    (second : SameAnswer (b.on (a.on l).2).1 (b.on l).1)
    (goods : (b.on (a.on l).2).2.SameGoods (a.on (b.on l).2).2) : Commute l a b where
  first := first
  second := second
  goods := goods
  history := by rw [Application.redemptions_on, Application.redemptions_on]
  history' := by rw [Application.redemptions_on, Application.redemptions_on]

theorem symm (commute : Commute l a b) : Commute l b a where
  first := commute.second
  second := commute.first
  goods := commute.goods.symm
  history := commute.history'
  history' := commute.history

/-- An application that fails in either order comes to nothing. -/
theorem of_refused {e : CouponError} (refused : a.verdict l = .error e)
    (still : a.verdict (b.on l).2 = .error e) : Commute l a b := by
  have alone : a.on l = (.error e, l) := Application.on_of_refused refused
  have after : a.on (b.on l).2 = (.error e, (b.on l).2) := Application.on_of_refused still
  refine .of_goods ?_ ?_ ?_
  · rw [alone, after]
    exact .refl _
  · rw [alone]
    exact .refl _
  · rw [alone, after]
    exact .refl _

/-- Two applications that take their uses from different counters. -/
theorem of_moved {move other : Ledger.Move} (judged : a.verdict l = .ok move)
    (judged' : b.verdict l = .ok other) (apart : move.key ≠ other.key) : Commute l a b := by
  obtain ⟨_, one⟩ := Application.takesOne judged
  obtain ⟨_, one'⟩ := Application.takesOne judged'
  have after : a.verdict (b.on l).2 = .ok move := by
    rw [Application.verdict_stable one', judged]
    intro again found
    cases judged.symm.trans found
    exact apart
  have after' : b.verdict (a.on l).2 = .ok other := by
    rw [Application.verdict_stable one, judged']
    intro again found
    cases judged'.symm.trans found
    exact apart.symm
  obtain ⟨_, two⟩ := Application.takesOne after
  obtain ⟨_, two'⟩ := Application.takesOne after'
  refine .of_goods ?_ ?_ (one.moved.comm apart two'.moved one'.moved two.moved)
  · rw [Application.on_of_moved after, Application.on_of_moved judged]
    exact .taken (l.nextRecord move.couponId a.caller.userId a.productId a.host.time) _
  · rw [Application.on_of_moved after', Application.on_of_moved judged']
    exact .taken (l.nextRecord other.couponId b.caller.userId b.productId b.host.time) _

end Commute

/-- **Applications are atomic, and commute if they do not meet.** One that fails leaves the ledger exactly as
it was; one that succeeds moves one counter and adds one record. Two that do not both take a use from the
same counter come to the same in either order. -/
theorem Ledger.applications_atomic (l : Ledger) :
    (∀ (a : Application) (e : CouponError), (a.on l).1 = .error e → (a.on l).2 = l) ∧
      (∀ (a : Application) (r : RedemptionRecord), (a.on l).1 = .ok r →
        ∃ c key u, TakesOne l a c key u r (a.on l).2) ∧
      ∀ a b : Application, (∀ key, ¬(a.Moves l key ∧ b.Moves l key)) → Commute l a b := by
  refine ⟨fun a e failed => ?_, fun a r taken => ?_, fun a b apart => ?_⟩
  · cases judged : a.verdict l with
    | error e' => rw [Application.on_of_refused judged]
    | ok move =>
      rw [Application.on_of_moved judged] at failed
      cases failed
  · cases judged : a.verdict l with
    | error e =>
      rw [Application.on_of_refused judged] at taken
      cases taken
    | ok move =>
      obtain ⟨c, one⟩ := Application.takesOne judged
      rw [Application.on_of_moved judged] at taken
      cases taken
      exact ⟨c, move.key, move.usage, one⟩
  · cases judged : a.verdict l with
    | error e =>
      refine .of_refused judged ?_
      cases judged' : b.verdict l with
      | error e' => rw [Application.on_of_refused judged', judged]
      | ok other =>
        obtain ⟨_, one⟩ := Application.takesOne judged'
        rw [Application.verdict_stable one, judged]
        intro move found
        cases judged.symm.trans found
    | ok move =>
      cases judged' : b.verdict l with
      | error e =>
        refine .symm (.of_refused judged' ?_)
        obtain ⟨_, one⟩ := Application.takesOne judged
        rw [Application.verdict_stable one, judged']
        intro move found
        cases judged'.symm.trans found
      | ok other =>
        refine .of_moved judged judged' fun same => apart move.key ⟨Application.moves judged, ?_⟩
        rw [same]
        exact Application.moves judged'

/-- One user applies a coupon that is limited as a whole and one of his own, or a code that nobody has. -/
theorem Ledger.applications_atomic_own :
    let host := HostAnswers.stopped ⟨5, 0⟩
    let user : Identity := ⟨⟨2⟩, .user⟩
    let l := (Ledger.empty.exec (.call (.createCoupon single))).exec
      (.call (.createCoupon { single with code := "MINE", scope := .perUser ⟨2⟩ }))
    let once : Application := ⟨user, "ONCE", none, host⟩
    let mine : Application := ⟨user, "MINE", none, host⟩
    let unknown : Application := ⟨user, "NONE", none, host⟩
    (unknown.on l).2 = l ∧ (∃ r c key u, TakesOne l once c key u r (once.on l).2) ∧
      (∃ r c key u, TakesOne l mine c key u r (mine.on l).2) ∧ Commute l once mine := by
  intro host user l once mine unknown
  obtain ⟨failed, taken, apart⟩ := applications_atomic l
  refine ⟨failed unknown (.ofStore (.couponNotFound "NONE")) rfl, ⟨_, taken once _ rfl⟩,
    ⟨_, taken mine _ rfl⟩, apart once mine ?_⟩
  rintro key ⟨⟨c, r, found, named, -⟩, c', r', found', named', -⟩
  cases found
  cases named
  cases found'
  cases named'

end Couponry
