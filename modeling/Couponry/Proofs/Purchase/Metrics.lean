import Couponry.Proofs.Coupon.Operations
import Couponry.Proofs.Ledger.Stock
import Couponry.Proofs.Purchase.Alone

/-!
# The counters account for everything

A day of a shop is a sequence of complete calls. Whatever they are and however they end, the counters that
were raised go with what is in the stores afterwards. `Balanced` says so of one deed, case by case of how
it may end, and since both sides only add up `counters_account` follows by induction over the calls.
-/

namespace Couponry

open Couponry.Program

/-- A complete call, with what the host answers during it, or a change from outside. -/
inductive Deed where
  | service (c : ServiceCall) (script : HostScript)
  | purchase (a : Attempt) (script : HostScript)
  | addProduct (name : String) (price : Money) (now : Instant)
  | failOnRedeem (fail : Bool)
  | failOnCommit (fail : Bool)

/-- A call that is over, with its result. -/
inductive Done where
  | service (c : ServiceCall) (result : Except CouponError c.Result)
  | purchase (a : Attempt) (result : Except PurchaseError PurchaseRecord) (change : Change)

namespace Done

/-- The call has deleted a coupon. -/
def deletes : Done → Bool
  | .service (.delete _ _) (.ok _) => true
  | _ => false

/-- The redemptions that the call made for a purchase. -/
def redemptions : Done → List RedemptionRecord
  | .purchase _ _ change => change.redemptions
  | .service _ _ => []

end Done

/-- The stores, what the host was told, and the calls that are over. -/
structure Day where
  stores : Stores
  journal : List Observation
  done : List Done

namespace Day

/-- The beginning of a day. -/
def opened (s : Stores) : Day :=
  ⟨s, [], []⟩

/-- The day after a deed. -/
def exec (d : Day) : Deed → Day
  | .service c script =>
    let (result, t) := (Deployment.service c.program).run (Scene.serve script) ⟨d.stores, 0, d.journal⟩
    ⟨t.stores, t.journal, d.done ++ [.service c result]⟩
  | .purchase a script =>
    let (result, t) := a.program.run (Scene.serve script) ⟨d.stores, 0, d.journal⟩
    ⟨t.stores, t.journal, d.done ++ [.purchase a result ⟨d.stores, t.stores⟩]⟩
  | .addProduct name price now =>
    { d with stores := { d.stores with catalog := (d.stores.catalog.addProduct name price now).2 } }
  | .failOnRedeem fail =>
    { d with stores := { d.stores with ledger := { d.stores.ledger with failOnRedeem := fail } } }
  | .failOnCommit fail =>
    { d with stores := { d.stores with catalog := { d.stores.catalog with failOnCommit := fail } } }

/-- The day after all deeds. -/
def run (d : Day) (deeds : List Deed) : Day :=
  deeds.foldl exec d

/-- How often a counter was raised. -/
def total (d : Day) (c : Counter) : Nat :=
  Observation.total d.journal c

/-- How many coupons were deleted. -/
def deletions (d : Day) : Nat :=
  d.done.countP Done.deletes

/-- The redemptions that were made for purchases. -/
def redemptions (d : Day) : List RedemptionRecord :=
  d.done.flatMap Done.redemptions

/-- The purchases that carry a coupon. -/
def couponed (s : Stores) : Nat :=
  s.catalog.purchases.countP fun p => p.coupon.isSome

/-- The counters go with what is in the stores. -/
structure Accounted (d : Day) : Prop where
  attempts : d.total .purchaseAttempts = d.total .purchasesCompleted +
    (ErrorKind.all.map fun k => d.total (.purchasesFailed k)).sum
  completed : d.total .purchasesCompleted = d.stores.catalog.purchases.length
  redeemed : d.total .redemptions = d.stores.ledger.redemptions.length
  /-- The redemptions of purchases are those of purchases that were committed, and the orphans. -/
  orphaned : d.redemptions.length = couponed d.stores + d.total .orphanedRedemptions
  /-- The coupons that were created are those that are still there, and the deleted ones. -/
  created : d.total .couponsCreated = d.stores.ledger.stock + d.deletions
  /-- No coupon is stored twice. -/
  distinct : d.stores.ledger.coupons.keys.Nodup

end Day

/-! ## One deed -/

/-- A deed that leads from one state of the stores to another has raised the counters by as much as it has
changed there, with this many redemptions for a purchase and this many deletions. -/
structure Balanced (s s' : Stores) (raised : List Counter) (redemptions deletions : Nat) : Prop where
  attempts : raised.count .purchaseAttempts = raised.count .purchasesCompleted +
    (ErrorKind.all.map fun k => raised.count (.purchasesFailed k)).sum
  completed : s'.catalog.purchases.length =
    s.catalog.purchases.length + raised.count .purchasesCompleted
  redeemed : s'.ledger.redemptions.length =
    s.ledger.redemptions.length + raised.count .redemptions
  orphaned : Day.couponed s' + raised.count .orphanedRedemptions = Day.couponed s + redemptions
  created : s'.ledger.stock + deletions = s.ledger.stock + raised.count .couponsCreated
  /-- Later deeds find a ledger that is in order. -/
  stocked : s'.ledger.Stocked

namespace Balanced

variable {s s' : Stores} {raised : List Counter} {script : HostScript}

theorem nothing (h : s.ledger.Stocked) : Balanced s s [] 0 0 :=
  ⟨rfl, rfl, rfl, rfl, rfl, h⟩

theorem of_created (h : s.ledger.Stocked) {r : Except CouponError CreatedCoupon}
    (created : Scene.Created s r s' raised) : Balanced s s' raised 0 0 := by
  cases created with
  | refused e => exact nothing h
  | created c id l made =>
    obtain ⟨stocked, stock⟩ := h.create made
    have redemptions := Ledger.redemptions_createCoupon s.ledger c
    rw [made] at redemptions
    exact ⟨rfl, rfl, congrArg List.length redemptions, rfl, stock, stocked⟩

theorem of_deleted (h : s.ledger.Stocked) {caller : Identity} {id : CouponId}
    {r : Except CouponError Unit} (deleted : Scene.Deleted id s r s' raised) :
    Balanced s s' raised 0 (if (Done.service (.delete caller id) r).deletes then 1 else 0) := by
  cases deleted with
  | refused e => exact nothing h
  | deleted l gone =>
    obtain ⟨stocked, stock, redemptions⟩ := h.delete gone
    exact ⟨rfl, rfl, congrArg List.length redemptions, rfl, stock, stocked⟩

theorem of_checked (h : s.ledger.Stocked) {code : String} {request : EligibilityRequest}
    {r : Except CouponError CouponView} (checked : Scene.Checked code request s r s' raised) :
    Balanced s s' raised 0 0 := by
  cases checked with
  | failed e => exact nothing h
  | shown view => exact nothing h
  | judged view => exact ⟨rfl, rfl, rfl, rfl, rfl, h⟩

theorem of_applied (h : s.ledger.Stocked) {caller : Identity} {code : String}
    {productId : Option ProductId} {r : Except CouponError RedemptionRecord}
    (applied : Scene.Applied script caller code productId s r s' raised) :
    Balanced s s' raised 0 0 := by
  cases applied with
  | unknown e => exact nothing h
  | inactive c found e => exact ⟨rfl, rfl, rfl, rfl, rfl, h⟩
  | refused c found e => exact ⟨rfl, rfl, rfl, rfl, rfl, h⟩
  | redeemed c found n active r l made =>
    obtain ⟨stocked, stock, redemptions⟩ := h.redeem made
    refine ⟨rfl, rfl, ?_, rfl, stock, stocked⟩
    show l.redemptions.length = _
    rw [redemptions, List.length_append]
    rfl

/-! ### A purchase -/

/-- Counters that may be raised between the beginning of a purchase and its end. -/
def within : Counter → Bool
  | .eligibilityChecks _ | .redemptions | .redemptionsRejected _ | .orphanedRedemptions => true
  | _ => false

theorem within_attempted {a : Attempt} {result : Except PurchaseError PurchaseRecord}
    (attempted : Scene.Attempted script a s result s' raised) : ∀ c ∈ raised, within c = true := by
  cases attempted with
  | refused e plain checks only =>
    intro c member
    obtain ⟨eligible, rfl⟩ := only c member
    rfl
  | _ => simp [within]

/-- A purchase that is begun is counted as completed or as failed, and as failed in one way. -/
theorem attempts_purchased {a : Attempt} {result : Except PurchaseError PurchaseRecord}
    (purchased : Scene.Purchased script a s result s' raised) :
    raised.count .purchaseAttempts = raised.count .purchasesCompleted +
      (ErrorKind.all.map fun k => raised.count (.purchasesFailed k)).sum := by
  obtain ⟨inner, attempted, rfl⟩ := purchased
  have none : ∀ c, within c = false → inner.count c = 0 := fun c outer =>
    List.count_eq_zero.2 fun member => by simp [within_attempted attempted c member] at outer
  have begun := none .purchaseAttempts rfl
  have completed := none .purchasesCompleted rfl
  have failed := fun k => none (.purchasesFailed k) rfl
  cases result with
  | ok record => simp [begun, completed, failed, Scene.closing, ErrorKind.all]
  | error e =>
    simp only [Scene.closing]
    generalize e.kind = kind
    cases kind <;> simp [begun, completed, failed, ErrorKind.all]

theorem couponed_sell (l : Ledger) (record : PurchaseRecord) :
    Day.couponed ⟨l, s.catalog.sell record⟩ =
      Day.couponed s + if record.coupon.isSome then 1 else 0 := by
  show (s.catalog.purchases ++ [record]).countP _ = _
  rw [List.countP_append, List.countP_singleton]
  rfl

/-- A use that is taken is one redemption more. -/
theorem of_takes (h : s.ledger.Stocked) {a : Attempt} {code : String} {c : Coupon} {l : Ledger}
    (takes : Scene.Takes script a code s c l) :
    l.Stocked ∧ l.stock = s.ledger.stock ∧
      l.redemptions.length = s.ledger.redemptions.length + 1 := by
  obtain ⟨n, r, active, made⟩ := takes.redeemed
  obtain ⟨stocked, stock, redemptions⟩ := h.redeem made
  exact ⟨stocked, stock, by rw [redemptions, List.length_append]; rfl⟩

theorem of_purchased (h : s.ledger.Stocked) {a : Attempt}
    {result : Except PurchaseError PurchaseRecord}
    (purchased : Scene.Purchased script a s result s' raised) :
    Balanced s s' raised (Change.mk s s').redemptions.length 0 := by
  have attempts := attempts_purchased purchased
  obtain ⟨inner, attempted, rfl⟩ := purchased
  rw [Change.redemptions, List.length_drop]
  cases attempted with
  | refused e plain _ only =>
    have none : ∀ c : Counter, (∀ b, c ≠ .eligibilityChecks b) → inner.count c = 0 := fun c other =>
      List.count_eq_zero.2 fun member => (only c member).elim other
    constructor
    · exact attempts
    · simp [none, Scene.closing]
    · simp [none, Scene.closing]
    · simp [none, Scene.closing]
    · simp [none, Scene.closing]
    · exact h
  | rejected e plain eligible reason =>
    exact ⟨attempts, rfl, rfl, by simp; rfl, rfl, h⟩
  | uncommitted e => exact ⟨attempts, rfl, rfl, by simp; rfl, rfl, h⟩
  | orphaned code c l takes failing eligible reason =>
    obtain ⟨stocked, stock, redemptions⟩ := of_takes h takes
    refine ⟨attempts, rfl, redemptions, ?_, stock, stocked⟩
    show _ = _ + (l.redemptions.length - _)
    rw [redemptions, Nat.add_sub_cancel_left]
    rfl
  | bought plain product stocked now =>
    refine ⟨attempts, ?_, rfl, ?_, rfl, h⟩
    · exact List.length_append
    · rw [couponed_sell, show (Scene.recordOf a s product product.price now).coupon = none from plain,
        Nat.sub_self]
      rfl
  | boughtWith code c l takes product stocked now eligible =>
    obtain ⟨inOrder, stock, redemptions⟩ := of_takes h takes
    refine ⟨attempts, ?_, redemptions, ?_, stock, inOrder⟩
    · exact List.length_append
    · rw [couponed_sell, show (Scene.recordOf a s product _ now).coupon = some code from takes.given]
      show _ = _ + (l.redemptions.length - _)
      rw [redemptions, Nat.add_sub_cancel_left]
      rfl

end Balanced

/-! ## The day -/

namespace Day

variable {d : Day}

/-- The invariant of a day. -/
structure InOrder (d : Day) : Prop where
  stocked : d.stores.ledger.Stocked
  accounted : d.Accounted

/-- A call whose deed is balanced keeps the account. -/
theorem InOrder.step (h : d.InOrder) {s' : Stores} {raised : List Counter} {result : Done} {t : Scene}
    (balanced : Balanced d.stores s' raised result.redemptions.length (if result.deletes then 1 else 0))
    (leads : Scene.Leads ⟨d.stores, 0, d.journal⟩ s' raised t) :
    InOrder ⟨t.stores, t.journal, d.done ++ [result]⟩ := by
  have totals : ∀ c, total ⟨t.stores, t.journal, d.done ++ [result]⟩ c = d.total c + raised.count c :=
    leads.totals
  have deletions : Day.deletions ⟨t.stores, t.journal, d.done ++ [result]⟩ =
      d.deletions + if result.deletes then 1 else 0 := by
    simp only [Day.deletions, List.countP_append, List.countP_singleton]
  have redemptions : (Day.redemptions ⟨t.stores, t.journal, d.done ++ [result]⟩).length =
      d.redemptions.length + result.redemptions.length := by
    simp [Day.redemptions]
  obtain ⟨attempts, completed, redeemed, orphaned, created, distinct⟩ := h.accounted
  rw [← leads.stores] at balanced
  refine ⟨balanced.stocked, ⟨?_, ?_, ?_, ?_, ?_, balanced.stocked.distinct⟩⟩
  · have more := balanced.attempts
    simp only [ErrorKind.all, List.map_cons, List.map_nil, List.sum_cons, List.sum_nil] at attempts more ⊢
    simp only [totals]
    omega
  · rw [totals, completed, balanced.completed]
  · rw [totals, redeemed, balanced.redeemed]
  · rw [totals, redemptions]
    have more := balanced.orphaned
    dsimp only
    omega
  · rw [totals, deletions]
    have more := balanced.created
    dsimp only
    omega

/-- A change from outside touches nothing that is accounted for. -/
theorem InOrder.outside (h : d.InOrder) {s : Stores} (stocked : s.ledger.Stocked)
    (purchases : s.catalog.purchases = d.stores.catalog.purchases)
    (redemptions : s.ledger.redemptions = d.stores.ledger.redemptions)
    (coupons : s.ledger.coupons = d.stores.ledger.coupons) : InOrder { d with stores := s } where
  stocked := stocked
  accounted :=
    { attempts := h.accounted.attempts
      completed := h.accounted.completed.trans (by rw [purchases])
      redeemed := h.accounted.redeemed.trans (by rw [redemptions])
      orphaned := h.accounted.orphaned.trans (by rw [couponed, couponed, purchases]; rfl)
      created := h.accounted.created.trans (by rw [Ledger.stock, Ledger.stock, coupons]; rfl)
      distinct := stocked.distinct }

theorem InOrder.exec (h : d.InOrder) (deed : Deed) : (d.exec deed).InOrder := by
  cases deed with
  | addProduct name price now => exact h.outside h.stocked rfl rfl rfl
  | failOnRedeem fail => exact h.outside ⟨h.stocked.formed.switch fail, h.stocked.distinct⟩ rfl rfl rfl
  | failOnCommit fail => exact h.outside h.stocked rfl rfl rfl
  | purchase a script =>
    obtain ⟨s', raised, purchased, leads⟩ := Scene.ensures_purchase script a ⟨d.stores, 0, d.journal⟩
    have balanced := Balanced.of_purchased h.stocked purchased
    rw [← leads.stores] at balanced
    exact h.step balanced (leads.stores ▸ leads)
  | service c script =>
    cases c with
    | create caller request =>
      obtain ⟨s', raised, created, leads⟩ :=
        Scene.ensures_service (Scene.ensures_createCoupon caller request _)
      exact h.step (Balanced.of_created h.stocked created) leads
    | delete caller id =>
      obtain ⟨s', raised, deleted, leads⟩ :=
        Scene.ensures_service (Scene.ensures_deleteCoupon caller id _)
      exact h.step (Balanced.of_deleted h.stocked deleted) leads
    | check code request =>
      obtain ⟨s', raised, checked, leads⟩ :=
        Scene.ensures_service (Scene.ensures_retrieveCoupon code request _)
      exact h.step (Balanced.of_checked h.stocked checked) leads
    | apply caller code productId =>
      obtain ⟨s', raised, applied, leads⟩ :=
        Scene.ensures_service (Scene.ensures_applyCoupon caller code productId _)
      exact h.step (Balanced.of_applied h.stocked applied) leads

theorem InOrder.run (h : d.InOrder) (deeds : List Deed) : (d.run deeds).InOrder := by
  induction deeds generalizing d with
  | nil => exact h
  | cons deed deeds ih => exact ih (h.exec deed)

/-- Stores with which a day may begin: products there may be, but no coupons, redemptions or purchases. -/
structure Starts (s : Stores) : Prop where
  reached : s.ledger.Reachable
  coupons : s.ledger.coupons = .empty
  redemptions : s.ledger.redemptions = []
  purchases : s.catalog.purchases = []

theorem Starts.distinct {s : Stores} (starts : Starts s) : s.ledger.coupons.keys.Nodup := by
  rw [starts.coupons]
  exact List.nodup_nil

theorem Starts.inOrder {s : Stores} (starts : Starts s) : (opened s).InOrder where
  stocked := ⟨starts.reached.wellFormed, starts.distinct⟩
  accounted :=
    { attempts := rfl
      completed := by rw [show (opened s).stores = s from rfl, starts.purchases]; rfl
      redeemed := by rw [show (opened s).stores = s from rfl, starts.redemptions]; rfl
      orphaned := by
        show 0 = List.countP _ s.catalog.purchases + 0
        rw [starts.purchases]
        rfl
      created := by
        show 0 = s.ledger.coupons.entries.length + 0
        rw [starts.coupons]
        rfl
      distinct := starts.distinct }

end Day

/-! ## Every application is counted once -/

namespace Scene

/-- One counter is raised, once, if a coupon has the code: that of redemptions after a success, and one of
rejections after a failure. Otherwise none is. -/
def CountedOnce (code : String) (t : Scene) (succeeded : Bool) (t' : Scene) : Prop :=
  match t.stores.ledger.getByCode code with
  | .ok _ => ∃ c, (if succeeded then c = .redemptions else ∃ why, c = .redemptionsRejected why) ∧
      ∀ o, Observation.total t'.journal o = Observation.total t.journal o + if o = c then 1 else 0
  | .error _ => succeeded = false ∧
      ∀ o, Observation.total t'.journal o = Observation.total t.journal o

variable {script : HostScript} {caller : Identity} {code : String} {productId : Option ProductId}

theorem Applied.countedOnce {t t' : Scene} {s : Stores} {r : Except CouponError RedemptionRecord}
    {raised : List Counter} (applied : Applied script caller code productId t.stores r s raised)
    (leads : t.Leads s raised t') : CountedOnce code t r.isOk t' := by
  have once : ∀ {c : Counter}, raised = [c] → ∀ o, Observation.total t'.journal o =
      Observation.total t.journal o + if o = c then 1 else 0 := by
    rintro c rfl o
    rw [leads.totals, List.count_singleton]
    by_cases same : o = c
    · simp [same]
    · simp [same, Ne.symm same]
  unfold CountedOnce
  cases applied with
  | unknown e missing =>
    rw [missing]
    exact ⟨rfl, leads.totals⟩
  | inactive c found e =>
    rw [found]
    exact ⟨_, ⟨_, rfl⟩, once rfl⟩
  | refused c found e =>
    rw [found]
    exact ⟨_, ⟨_, rfl⟩, once rfl⟩
  | redeemed c found =>
    rw [found]
    exact ⟨_, rfl, once rfl⟩

/-- An application that is asked for directly. -/
theorem countedOnce_applyCoupon (script : HostScript) (caller : Identity) (code : String)
    (productId : Option ProductId) (t : Scene) :
    (Deployment.service (Service.applyCoupon caller code productId)).Ensures (serve script)
      (fun r => CountedOnce code t r.isOk) t := by
  refine ensures_service ((ensures_applyCoupon caller code productId t).mono ?_)
  rintro r t' ⟨s, raised, applied, leads⟩
  exact applied.countedOnce leads

/-- An application that a purchase asks for. -/
theorem countedOnce_redeem (script : HostScript) (caller : Identity) (code : String)
    (productId : Option ProductId) (t : Scene) :
    (Deployment.inProcess (.redeem caller code productId)).Ensures (serve script)
      (fun r => CountedOnce code t (Except.isOk r)) t := by
  refine ensures_service ((ensures_applyCoupon caller code productId t).bind ?_)
  rintro (e | r) t' ⟨s, raised, applied, leads⟩ <;> exact applied.countedOnce leads

end Scene

namespace Day

/-- **The counters account for everything that is in the stores**, after any calls that end in any way, and
every application of a coupon that exists is counted exactly once, by itself or in a purchase. -/
theorem counters_account {s : Stores} (starts : Starts s) (deeds : List Deed) :
    ((opened s).run deeds).Accounted ∧
      ∀ (script : HostScript) (caller : Identity) (code : String) (productId : Option ProductId)
        (t : Scene),
        (Deployment.service (Service.applyCoupon caller code productId)).Ensures (Scene.serve script)
            (fun r => Scene.CountedOnce code t r.isOk) t ∧
          (Deployment.inProcess (.redeem caller code productId)).Ensures (Scene.serve script)
            (fun r => Scene.CountedOnce code t (Except.isOk r)) t :=
  ⟨(starts.inOrder.run deeds).accounted, fun script caller code productId t =>
    ⟨Scene.countedOnce_applyCoupon script caller code productId t,
      Scene.countedOnce_redeem script caller code productId t⟩⟩

/-- A purchase, one that is orphaned, an application of a coupon that is used up, and its deletion. -/
theorem counters_account_orphan :
    let script : HostScript := fun _ => HostAnswers.stopped ⟨5, 0⟩
    let admin : Identity := ⟨⟨1⟩, .admin⟩
    let user : Identity := ⟨⟨2⟩, .user⟩
    let code := "COUPON700101AAAAA"
    let s : Stores := ⟨.empty, .empty⟩
    let d := (opened s).run [
      .service (.create admin ⟨⟨0, 0⟩, ⟨9, 0⟩, .percent 20, .limited, 2, none, none⟩) script,
      .addProduct "cup" ⟨199⟩ ⟨0, 0⟩,
      .purchase ⟨user, ⟨1⟩, some code⟩ script,
      .failOnCommit true,
      .purchase ⟨user, ⟨1⟩, some code⟩ script,
      .service (.apply user code none) script,
      .service (.delete admin ⟨1⟩) script]
    Starts s ∧ d.Accounted ∧
      (d.total .purchaseAttempts = 2 ∧ d.total (.purchasesFailed .internal) = 1 ∧
        d.total .redemptions = 2 ∧ d.total .orphanedRedemptions = 1 ∧
        d.total (.redemptionsRejected (.failed .failedPrecondition)) = 1 ∧ d.deletions = 1) := by
  intro script admin user code s d
  have starts : Starts s := ⟨.empty, rfl, rfl, rfl⟩
  exact ⟨starts, (counters_account starts _).1, by decide +kernel⟩

end Day

end Couponry
