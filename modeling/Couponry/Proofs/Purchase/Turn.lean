import Couponry.Proofs.Purchase.Holding

/-!
# Turns

What a turn of one attempt does to the stores and to its course. Whatever it comes to hold, a
transaction, a record or a redemption, it held before or is new, so that two attempts never hold the
same. `At.turn` is all that the statements about markets use.
-/

namespace Couponry

namespace Course

/-- Nothing is held. -/
structure Bare (x : Course) : Prop where
  tx : x.tx? = none
  record : x.record? = none
  redemption : x.redemption? = none

/-- What is held at stage `y` was held at stage `x`, or is new to these stores. -/
structure Fresh (s : Stores) (x y : Course) : Prop where
  tx : ∀ tx, y.tx? = some tx → x.tx? = some tx ∨ s.catalog.lastTx < tx.value
  record : ∀ p, y.record? = some p → x.record? = some p ∨ s.catalog.lastPurchaseId < p.id
  redemption : ∀ r, y.redemption? = some r → x.redemption? = some r ∨
    s.ledger.lastRedemptionId < r.id

/-- Of what is not held, anything is true. -/
theorem absent {α : Type} {held : Option α} {P : α → Prop} (none : held = none) :
    ∀ v, held = some v → P v := by
  intro v some
  rw [none] at some
  cases some

section Bare

variable {s : Stores} {x y : Course} {code : String}

theorem Bare.fresh (h : y.Bare) : Fresh s x y :=
  ⟨absent h.tx, absent h.record, absent h.redemption⟩

theorem Fresh.refl : Fresh s x x :=
  ⟨fun _ => .inl, fun _ => .inl, fun _ => .inl⟩

theorem bare_failed (e : PurchaseError) : (failed e).Bare := ⟨rfl, rfl, rfl⟩

theorem bare_lookedUp (coupon : Option String) (answer : Except ProductStoreError Product) :
    (lookedUp coupon answer).Bare := by
  cases answer with
  | error e => exact bare_failed _
  | ok product => cases coupon <;> exact ⟨rfl, rfl, rfl⟩

theorem bare_judged (code : String) (u : Usage) : (judged code u).Bare := by
  unfold judged
  split
  · exact bare_failed _
  · exact ⟨rfl, rfl, rfl⟩

theorem bare_checked (code : String) (now : Instant) (answer : Except StoreError Coupon) :
    (checked code now answer).Bare := by
  cases answer with
  | error e => exact bare_failed _
  | ok c =>
    simp only [checked]
    split
    · split
      · split
        · exact bare_failed _
        · exact bare_judged _ _
      · exact ⟨rfl, rfl, rfl⟩
      · exact ⟨rfl, rfl, rfl⟩
    · exact bare_failed _

theorem bare_granted (code missing : String) (answer : Except StoreError (Option Usage)) :
    (granted code missing answer).Bare := by
  rcases answer with e | _ | u
  · exact bare_failed _
  · exact bare_failed _
  · exact bare_judged _ _

end Bare

section Step

variable {a : Attempt} {s s' : Stores} {x y z : Course}

/-- The host gives nothing to hold. -/
theorem Fresh.host (h : Fresh s x y) {c : HostCall} {answer : c.Answer}
    (go : Step a y (.host c) answer z) : Fresh s x z := by
  cases go with
  | note | writeTime => exact h
  | checkTime now => exact Bare.fresh ⟨rfl, rfl, rfl⟩
  | redeemTime coupon tx p c now =>
    unfold clocked
    split
    · exact ⟨h.tx, h.record, h.redemption⟩
    · exact ⟨h.tx, absent rfl, h.redemption⟩

theorem fresh_wrote (tx : TxId) (p : NewPurchase) {answer : Except ProductStoreError PurchaseRecord}
    {c : Catalog} (wrote : s.catalog.insertPurchase tx p = (answer, c)) :
    Fresh s (.opened tx) (Course.wrote tx answer) := by
  obtain ⟨e, failed⟩ | ⟨c', success, -⟩ := s.catalog.insertPurchase_cases tx p
  · cases wrote.symm.trans failed
    exact ⟨fun _ => .inl, absent rfl, absent rfl⟩
  · cases wrote.symm.trans success
    refine ⟨fun _ => .inl, ?_, absent rfl⟩
    rintro q ⟨⟩
    refine .inr ?_
    show s.catalog.lastPurchaseId < s.catalog.lastPurchaseId + 1
    omega

theorem fresh_tookUse (tx : TxId) (p : PurchaseRecord) {c : Coupon} {now : Instant}
    {userId : UserId} {productId : Option ProductId} {answer : Except StoreError RedemptionRecord}
    {l : Ledger} (asked : s.ledger.redeem c userId productId now = (answer, l)) :
    Fresh s (.redeeming tx p c now) (Course.tookUse tx p answer) := by
  cases answer with
  | error e => exact ⟨fun _ => .inl, absent rfl, absent rfl⟩
  | ok r =>
    refine ⟨fun _ => .inl, fun _ => .inl, ?_⟩
    rintro q ⟨⟩
    have next := Ledger.id_of_redeem asked
    exact .inr (by omega)

/-- A call gives what the stores have not given before. -/
theorem Fresh.step {host : HostAnswers} {c : SystemCall} {answer : SystemCalls.Answer c}
    (go : Step a x c answer y) (served : s.serve host c = (answer, s')) : Fresh s x y := by
  cases go with
  | note _ o answer => exact .refl
  | lookup answer => exact (bare_lookedUp _ _).fresh
  | checkTime now => exact Bare.fresh ⟨rfl, rfl, rfl⟩
  | check coupon now answer => exact (bare_checked _ _ _).fresh
  | userGrant coupon scope answer => exact (bare_granted _ _ _).fresh
  | productGrant coupon scope answer => exact (bare_granted _ _ _).fresh
  | begin answer =>
    cases served
    refine ⟨?_, absent rfl, absent rfl⟩
    rintro tx ⟨⟩
    exact .inr (Nat.lt_succ_self _)
  | writeTime tx now => exact .refl
  | write tx user product coupon answer =>
    cases served
    exact fresh_wrote tx _ rfl
  | find coupon tx p answer =>
    cases answer with
    | error e => exact ⟨fun _ => .inl, absent rfl, absent rfl⟩
    | ok c => exact ⟨fun _ => .inl, fun _ => .inl, absent rfl⟩
  | redeemTime coupon tx p c now =>
    unfold clocked
    split
    · exact ⟨fun _ => .inl, fun _ => .inl, absent rfl⟩
    · exact ⟨fun _ => .inl, absent rfl, absent rfl⟩
  | redeem tx p c now answer =>
    cases served
    exact fresh_tookUse tx p rfl
  | rollback tx e answer => exact (bare_failed _).fresh
  | commit plain tx p answer =>
    cases answer with
    | error e => exact (bare_failed _).fresh
    | ok _ => exact ⟨absent rfl, fun _ => .inl, absent rfl⟩
  | commitWith coupon tx p r answer =>
    cases answer with
    | error e => exact ⟨absent rfl, absent rfl, fun _ => .inl⟩
    | ok _ => exact ⟨absent rfl, fun _ => .inl, fun _ => .inl⟩

theorem purchase?_eq_some {p : PurchaseRecord} (committed : x.purchase? = some p) :
    ∃ r, x = .committed p r := by
  cases x with
  | committed q r =>
    cases committed
    exact ⟨r, rfl⟩
  | _ => cases committed

theorem Bare.purchase (h : x.Bare) : x.purchase? = none := by
  cases committed : x.purchase? with
  | none => rfl
  | some p =>
    obtain ⟨r, rfl⟩ := purchase?_eq_some committed
    cases h.record

/-- A purchase that was committed stays committed. -/
theorem Step.committed {c : SystemCall} {answer : SystemCalls.Answer c} (go : Step a x c answer y)
    {p : PurchaseRecord} (done : x.purchase? = some p) : y.purchase? = some p := by
  obtain ⟨r, rfl⟩ := purchase?_eq_some done
  cases go
  exact done

/-- An attempt calls for no transaction but its own. -/
theorem Step.own {call : ProductCall} {answer : SystemCalls.Answer (.products call)}
    (go : Step a x (.products call) answer y) : call.tx? = none ∨ call.tx? = x.tx? := by
  cases go with
  | lookup | begin => exact .inl rfl
  | write | rollback | commit | commitWith => exact .inr rfl

/-- What is new among the purchases after a commit was in the transaction. -/
theorem mem_commit {c c' : Catalog} {tx : TxId} {answer : Except ProductStoreError Unit}
    {p : PurchaseRecord} (contains : c.Contains tx [p]) (committed : c.commit tx = (answer, c')) :
    ∀ q ∈ c'.purchases, q ∈ c.purchases ∨ answer = .ok () ∧ q = p := by
  intro q made
  have cases := c.commit_cases tx
  rw [committed] at cases
  obtain ⟨e, failed, kept⟩ | ⟨success, grown⟩ := cases
  · exact .inl (kept ▸ made)
  · rw [grown, contains.2] at made
    rcases List.mem_append.1 made with old | new
    · exact .inl old
    · exact .inr ⟨success, List.mem_singleton.1 new⟩

/-- The purchases that there are after a call were there before, or are of the attempt that called. -/
theorem Step.purchases {b : Buyer} (h : x.Holds s b) {call : ProductCall}
    {answer : SystemCalls.Answer (.products call)} {c : Catalog}
    (go : Step b.attempt x (.products call) answer y)
    (answered : Catalog.answer call s.catalog = (answer, c)) :
    ∀ p ∈ c.purchases, p ∈ s.catalog.purchases ∨ y.purchase? = some p := by
  cases go with
  | lookup answer | begin answer | rollback tx e answer =>
    cases answered
    exact fun _ => .inl
  | write tx user product coupon answer =>
    obtain ⟨e, failed⟩ | ⟨c', success, kept, -⟩ := s.catalog.insertPurchase_cases tx _
    · cases answered.symm.trans failed
      exact fun _ => .inl
    · cases answered.symm.trans success
      rw [kept]
      exact fun _ => .inl
  | commit plain tx p answer =>
    intro q made
    rcases mem_commit h.2.1 answered q made with old | ⟨rfl, rfl⟩
    · exact .inl old
    · exact .inr rfl
  | commitWith coupon tx p r answer =>
    intro q made
    rcases mem_commit h.2.2.1 answered q made with old | ⟨rfl, rfl⟩
    · exact .inl old
    · exact .inr rfl

end Step

/-! ## What a turn does -/

/-- What a turn does that takes the stores from `s` to `s'` and the course from `x` to `z`. -/
structure Turned (s s' : Stores) (x z : Course) : Prop where
  wellFormed : s'.ledger.WellFormed
  ledger : Ledger.Later s.ledger s'.ledger
  catalog : Catalog.Later x.tx? s.catalog s'.catalog
  fresh : Fresh s x z
  purchases : ∀ p ∈ s'.catalog.purchases, p ∈ s.catalog.purchases ∨ z.purchase? = some p
  kept : ∀ p, x.purchase? = some p → z.purchase? = some p

section Turned

variable {s s' : Stores} {x y z : Course}

theorem Turned.refl (wellFormed : s.ledger.WellFormed) : Turned s s x x :=
  ⟨wellFormed, .refl _, .refl _ _, .refl, fun _ => .inl, fun _ => id⟩

theorem Turned.host (h : Turned s s' x y) {a : Attempt} {c : HostCall} {answer : c.Answer}
    (go : Step a y (.host c) answer z) : Turned s s' x z :=
  { h with
    fresh := h.fresh.host go
    purchases := fun p made => (h.purchases p made).imp_right go.committed
    kept := fun p done => go.committed (h.kept p done) }

theorem Turned.step {b : Buyer} (wellFormed : s.ledger.WellFormed) (h : x.Holds s b)
    {host : HostAnswers} {c : SystemCall} {answer : SystemCalls.Answer c}
    (go : Step b.attempt x c answer y) (served : s.serve host c = (answer, s')) :
    Turned s s' x y := by
  have fresh := Fresh.step go served
  cases c with
  | host c =>
    cases served
    exact ⟨wellFormed, .refl _, .refl _ _, fresh, fun _ => .inl, fun _ => go.committed⟩
  | store c =>
    cases served
    exact ⟨wellFormed.effect (Ledger.effect_answer _ c), .answer _ c, .refl _ _, fresh,
      fun _ => .inl, fun _ => go.committed⟩
  | products call =>
    have later : Catalog.Later x.tx? s.catalog (Catalog.answer call s.catalog).2 := by
      have later := Catalog.Later.answer s.catalog call
      rcases go.own with none | own
      · rw [none] at later
        exact later.weaken _
      · rwa [own] at later
    cases served
    exact ⟨wellFormed, .refl _, later, fresh, go.purchases h rfl, fun _ => go.committed⟩

end Turned

end Course

/-- A buyer is at a stage of its course. -/
structure Buyer.At (s : Stores) (b : Buyer) (x : Course) : Prop where
  follows : b.rest.Follows (Course.Step b.attempt) (fun x result => x.result? = some result) x
  settled : Settled b.rest
  holds : x.Holds s b

namespace Buyer.At

variable {s s' : Stores} {b : Buyer} {x : Course}

theorem enter (a : Attempt) (script : HostScript) : (Buyer.enter a script).At s .start := by
  have entered : ∃ x, x = .start ∧ (settle script a.program).Follows (Course.Step a)
      (fun x result => x.result? = some result) x := by
    refine follows_settle ?_ rfl (Course.follows_program a)
    rintro n c x y rfl go
    cases go
    rfl
  obtain ⟨_, rfl, follows⟩ := entered
  exact ⟨follows, settled_settle _ _, rfl, rfl⟩

/-- **A turn keeps to the course**, and establishes of the stage that it comes to what its call to a
store establishes and the host does not break. -/
theorem turn {P : Stores → Course → Prop} (wellFormed : s.ledger.WellFormed) (h : b.At s x)
    (script : HostScript) (idle : P s x)
    (step : ∀ c y, Course.Step b.attempt x c (s.serve (script 0) c).1 y →
      P (s.serve (script 0) c).2 y)
    (host : ∀ s' n c y z, P s' y → Course.Step b.attempt y (.host c) (script n c) z → P s' z) :
    ∃ z, (b.turn script s).1.At (b.turn script s).2 z ∧ P (b.turn script s).2 z := by
  obtain ⟨a, rest, changes⟩ := b
  cases rest with
  | done result => exact ⟨x, h, idle⟩
  | ask c next =>
    obtain ⟨y, go, follows⟩ := h.follows (s.serve (script 0) c).1
    generalize served : s.serve (script 0) c = out at go follows
    obtain ⟨answer, s'⟩ := out
    have after : (Buyer.turn ⟨a, .ask c next, changes⟩ script s) =
        (Buyer.after ⟨a, .ask c next, changes⟩ (settle script.tail (next answer)) ⟨s, s'⟩, s') := by
      simp only [Buyer.turn, served]
    have first := step c y (by rw [served]; exact go)
    rw [served] at first
    rw [after]
    have settles : ∃ z, (z.Holds s' (Buyer.after ⟨a, .ask c next, changes⟩
        (settle script.tail (next answer)) ⟨s, s'⟩) ∧ P s' z) ∧
        (settle script.tail (next answer)).Follows (Course.Step a)
          (fun x result => x.result? = some result) z := by
      refine follows_settle ?_ ⟨h.holds.turn wellFormed go served, first⟩ follows
      rintro n c y z ⟨holds, established⟩ go
      exact ⟨holds.host go, host s' (n + 1) c y z established go⟩
    obtain ⟨z, ⟨holds, established⟩, rest⟩ := settles
    exact ⟨z, ⟨rest, settled_settle _ _, holds⟩, established⟩

theorem turned (wellFormed : s.ledger.WellFormed) (h : b.At s x) (script : HostScript) :
    ∃ z, (b.turn script s).1.At (b.turn script s).2 z ∧ Course.Turned s (b.turn script s).2 x z := by
  refine h.turn (P := fun s' z => Course.Turned s s' x z) wellFormed script ?_ ?_ ?_
  · exact .refl wellFormed
  · intro c y go
    exact .step wellFormed h.holds go rfl
  · intro s' n c y z turned go
    exact turned.host go

/-- What an attempt has returned is the result of its stage. -/
theorem result (h : b.At s x) {result : Except PurchaseError PurchaseRecord}
    (returned : b.result? = some result) : x.result? = some result := by
  obtain ⟨a, rest, changes⟩ := b
  cases rest with
  | done r =>
    cases returned
    exact h.follows
  | ask c next => cases returned

/-- An attempt that has come to a result has returned it. -/
theorem returned (h : b.At s x) {result : Except PurchaseError PurchaseRecord}
    (final : x.result? = some result) : b.result? = some result := by
  obtain ⟨a, rest, changes⟩ := b
  have follows : rest.Follows (Course.Step a) (fun x result => x.result? = some result) x := h.follows
  cases rest with
  | done r => exact follows.symm.trans final
  | ask c next =>
    cases c with
    | host c => exact h.settled.elim
    | store c =>
      obtain ⟨y, go, -⟩ := follows (Except.error (.couponNotFound ""))
      cases go <;> cases final
    | products c =>
      obtain ⟨y, go, -⟩ := follows (Except.error (.commitFailed ""))
      cases go <;> cases final

/-- An attempt whose coupon is redeemed commits next. -/
theorem committing {tx : TxId} {p : PurchaseRecord} {r : RedemptionRecord}
    (h : b.At s (.redeemed tx p r)) : ∃ next, b.rest = .ask (.products (.commit tx)) next := by
  obtain ⟨a, rest, changes⟩ := b
  have follows : rest.Follows (Course.Step a) (fun x result => x.result? = some result)
    (.redeemed tx p r) := h.follows
  cases rest with
  | done result => cases follows
  | ask c next =>
    cases c with
    | host c => exact h.settled.elim
    | store c =>
      obtain ⟨y, go, -⟩ := follows (Except.error (.couponNotFound ""))
      cases go
    | products c =>
      obtain ⟨y, go, -⟩ := follows (Except.error (.commitFailed ""))
      cases go
      exact ⟨next, rfl⟩

end Buyer.At

end Couponry
