import Couponry.Proofs.Purchase.Conservation
import Couponry.Proofs.Purchase.Sale

/-!
# Exact quotas

However the calls of any number of attempts are interleaved in a sale: when all have returned, as many
have succeeded as there were attempts or uses, whichever is less, and all others were refused. The
induction is on the moves, and `Selling` is what one move preserves: the counter, the records and the
purchases are what the courses of the attempts come to together.
-/

namespace Couponry

/-- The request leaves this coupon alone, whatever it is answered. -/
def Spares (id : CouponId) {α : Type} : CouponProgram α → Prop
  | .done _ => True
  | .ask (.store c) next => c.Spares id ∧ ∀ answer, Spares id (next answer)
  | .ask (.host _) next => ∀ answer, Spares id (next answer)

/-- How many of these courses hold something. -/
def heldBy {α : Type} (held : Course → Option α) (courses : List Course) : Nat :=
  courses.countP fun x => (held x).isSome

theorem heldBy_concat {α : Type} (held : Course → Option α) (courses : List Course) (z : Course) :
    heldBy held (courses ++ [z]) = heldBy held courses + (held z).toList.length := by
  cases holds : held z <;> simp [heldBy, List.countP_append, holds]

theorem heldBy_set {α : Type} (held : Course → Option α) {courses : List Course} {i : Nat}
    {x : Course} (z : Course) (at_i : courses[i]? = some x) :
    heldBy held (courses.set i z) + (held x).toList.length =
      heldBy held courses + (held z).toList.length := by
  have cons : ∀ y rest, heldBy held (y :: rest) = (held y).toList.length + heldBy held rest := by
    intro y rest
    cases holds : held y <;> simp [heldBy, holds, Nat.add_comm]
  induction courses generalizing i with
  | nil => cases at_i
  | cons y rest ih =>
    cases i with
    | zero =>
      cases at_i
      rw [List.set_cons_zero, cons, cons]
      omega
    | succ i =>
      have := ih at_i
      rw [List.set_cons_succ, cons, cons]
      omega

namespace Sale

/-- A move that the sale allows: attempts to buy, at times when the coupon is valid, and requests that
leave the coupon alone. -/
def Allows (sale : Sale) : Move → Prop
  | .enter a _ => sale.Admits a
  | .turn _ script => ∀ n, sale.Valid (script n).time
  | .ask request => Spares sale.id request
  | .serve _ _ | .addProduct _ _ _ => True
  | .failOnRedeem fail | .failOnCommit fail => fail = false

/-- What a move preserves that the sale allows. -/
structure Selling (sale : Sale) (before : Stores) (m : Market) (courses : List Course) : Prop where
  sound : m.Sound before.catalog.purchases courses
  open_now : sale.Open m.stores (heldBy Course.redemption? courses)
  fits : ∀ x ∈ courses, sale.Fits (heldBy Course.redemption? courses) x
  admits : ∀ b ∈ m.buyers, sale.Admits b.attempt
  spared : ∀ request ∈ m.requests, Spares sale.id request
  records : m.stores.ledger.redemptionCount sale.id =
    before.ledger.redemptionCount sale.id + heldBy Course.redemption? courses
  sold : m.stores.catalog.purchases.length =
    before.catalog.purchases.length + heldBy Course.purchase? courses

theorem Fits.mono {sale : Sale} {used used' : Nat} {x : Course} (fits : sale.Fits used x)
    (grows : used ≤ used') : sale.Fits used' x := by
  cases x with
  | refused tx e | failed e =>
    have used_up := fits.2
    exact ⟨fits.1, by omega⟩
  | committed p r => cases r <;> exact fits
  | _ => exact fits

namespace Selling

variable {sale : Sale} {before : Stores} {m : Market} {courses : List Course}

theorem enter (h : sale.Selling before m courses) {a : Attempt} (admits : sale.Admits a)
    (script : HostScript) :
    sale.Selling before { m with buyers := m.buyers ++ [.enter a script] } (courses ++ [.start]) := by
  have uses : heldBy Course.redemption? (courses ++ [.start]) = heldBy Course.redemption? courses :=
    heldBy_concat _ _ _
  have sales : heldBy Course.purchase? (courses ++ [.start]) = heldBy Course.purchase? courses :=
    heldBy_concat _ _ _
  refine ⟨h.sound.enter a script, uses ▸ h.open_now, ?_, ?_, h.spared, uses ▸ h.records,
    sales ▸ h.sold⟩
  · intro x member
    rw [uses]
    rcases List.mem_append.1 member with earlier | new
    · exact h.fits x earlier
    · cases List.mem_singleton.1 new
      trivial
  · intro b member
    rcases List.mem_append.1 member with earlier | new
    · exact h.admits b earlier
    · cases List.mem_singleton.1 new
      exact admits

/-- What a turn of one attempt does to the sale. -/
theorem turned (h : sale.Selling before m courses) {script : HostScript}
    (valid : ∀ n, sale.Valid (script n).time) {b : Buyer} {x : Course} (buyer : b ∈ m.buyers)
    (course : x ∈ courses) (holder : b.At m.stores x) :
    ∃ z, (b.turn script m.stores).1.At (b.turn script m.stores).2 z ∧
      Course.Turned m.stores (b.turn script m.stores).2 x z ∧
      ∃ used', sale.Progress m.stores (b.turn script m.stores).2
        (heldBy Course.redemption? courses) used' x z := by
  have wellFormed := h.sound.wellFormed
  have fits := h.fits x course
  refine holder.turn (P := fun s z => Course.Turned m.stores s x z ∧ ∃ used', sale.Progress m.stores s
    (heldBy Course.redemption? courses) used' x z) wellFormed script ?_ ?_ ?_
  · exact ⟨.refl wellFormed, _, .still h.open_now fits rfl rfl⟩
  · intro c y go
    exact ⟨.step wellFormed holder.holds go rfl,
      Progress.step wellFormed h.open_now (h.admits b buyer) holder.holds fits (valid 0) go⟩
  · rintro s n c y z ⟨turned, used', progress⟩ go
    exact ⟨turned.host go, used', progress.host (valid n) go⟩

/-- A turn of one attempt keeps the account of all. -/
theorem turn (h : sale.Selling before m courses) {script : HostScript}
    (valid : ∀ n, sale.Valid (script n).time) {i : Nat} {b : Buyer} (buyer : m.buyers[i]? = some b) :
    ∃ courses', sale.Selling before ⟨(b.turn script m.stores).2,
      m.buyers.set i (b.turn script m.stores).1, m.requests⟩ courses' := by
  obtain ⟨x, course, holder⟩ := h.sound.course_of buyer
  have member := List.mem_of_getElem? buyer
  obtain ⟨z, after, turned, used', progress⟩ :=
    h.turned valid member (List.mem_of_getElem? course) holder
  have uses : heldBy Course.redemption? (courses.set i z) = used' := by
    have set := heldBy_set Course.redemption? z course
    have moved := progress.uses
    omega
  have sales := heldBy_set Course.purchase? z course
  refine ⟨courses.set i z, h.sound.turn buyer course after turned, ?_, ?_, ?_, h.spared, ?_, ?_⟩
  · rw [uses]
    exact progress.open_after
  · intro y new
    rw [uses]
    rcases List.mem_or_eq_of_mem_set new with earlier | rfl
    · exact (h.fits y earlier).mono progress.grows
    · exact progress.fits
  · intro c new
    rcases List.mem_or_eq_of_mem_set new with earlier | rfl
    · exact h.admits c earlier
    · rw [Buyer.attempt_turn]
      exact h.admits b member
  · have moved := progress.records
    have taken := progress.uses
    have earlier := h.records
    show (b.turn script m.stores).2.ledger.redemptionCount sale.id = _
    rw [uses]
    omega
  · have moved := progress.sold
    have earlier := h.sold
    show (b.turn script m.stores).2.catalog.purchases.length = _
    omega

/-- A request that leaves the coupon alone goes on to do so. -/
theorem advance {l : Ledger} (wellFormed : l.WellFormed) {id : CouponId} {d : Coupon}
    (alive : l.definition? id = some d) (host : HostAnswers) {p : CouponProgram Unit}
    (spares : Spares id p) :
    Spares id (advance host p l).1 ∧ Ledger.Keeps id l (advance host p l).2 := by
  cases p with
  | done a => exact ⟨trivial, .refl id l⟩
  | ask c next =>
    cases c with
    | store c =>
      exact ⟨spares.2 _, .effect wellFormed alive (Ledger.effect_answer l c) spares.1⟩
    | host c => exact ⟨spares _, .refl id l⟩

/-- A move of no attempt that leaves the coupon alone. -/
theorem aside (h : sale.Selling before m courses) {move : Move} (aside : move.ofAttempt = false)
    (allowed : sale.Allows move) : sale.Selling before (m.exec move) courses := by
  have sound := h.sound.aside aside
  obtain ⟨redeems, commits, offered, alive, counter⟩ := h.open_now
  cases move with
  | enter a script => cases aside
  | turn i script => cases aside
  | ask request =>
    refine { h with sound := sound, spared := ?_ }
    intro p member
    rcases List.mem_append.1 member with earlier | new
    · exact h.spared p earlier
    · cases List.mem_singleton.1 new
      exact allowed
  | serve i host =>
    cases asked : m.requests[i]? with
    | none =>
      simp only [Market.exec, asked]
      exact h
    | some p =>
      simp only [Market.exec, asked] at sound ⊢
      have spares := h.spared p (List.mem_of_getElem? asked)
      obtain ⟨spares', keeps⟩ := advance h.sound.wellFormed alive host spares
      have counter' := (keeps.counter sale.key (Ledger.couponId_scopeKey _ _)).trans counter
      refine ⟨sound, ⟨keeps.on.trans redeems, commits, offered, keeps.definition.trans alive, counter'⟩,
        h.fits, h.admits, ?_, keeps.records.trans h.records, h.sold⟩
      intro q member
      rcases List.mem_or_eq_of_mem_set member with earlier | rfl
      · exact h.spared q earlier
      · exact spares'
  | addProduct name price now =>
    refine { h with sound := sound, open_now := ⟨redeems, commits, ?_, alive, counter⟩ }
    show (m.stores.catalog.products.insert _ _).contains sale.productId = true
    rw [Table.contains, Table.get?_insert]
    split
    · rfl
    · exact offered
  | failOnRedeem fail =>
    cases allowed
    refine { h with sound := sound, open_now := ⟨rfl, commits, offered, alive, ?_⟩ }
    exact (Ledger.counter?_failOnRedeem _ _ _).trans counter
  | failOnCommit fail =>
    cases allowed
    exact { h with sound := sound, open_now := ⟨redeems, rfl, offered, alive, counter⟩ }

/-- **A move keeps the account of the sale.** -/
theorem exec (h : sale.Selling before m courses) {move : Move} (allowed : sale.Allows move) :
    ∃ courses', sale.Selling before (m.exec move) courses' := by
  cases move with
  | enter a script => exact ⟨_, h.enter allowed script⟩
  | turn i script =>
    cases buyer : m.buyers[i]? with
    | none =>
      refine ⟨courses, ?_⟩
      simp only [Market.exec, buyer]
      exact h
    | some b =>
      obtain ⟨courses', selling⟩ := h.turn allowed buyer
      refine ⟨courses', ?_⟩
      simp only [Market.exec, buyer]
      exact selling
  | ask | serve | addProduct | failOnRedeem | failOnCommit => exact ⟨courses, h.aside rfl allowed⟩

end Selling

/-! ## The end of a sale -/

/-- The stores in which a sale starts: the coupon was just created, and the product is on offer. -/
structure Starts (sale : Sale) (s : Stores) : Prop where
  created : ∃ l : Ledger, l.Reachable ∧ l.failOnRedeem = false ∧
    l.createCoupon sale.coupon = (.ok sale.id, s.ledger)
  commits : s.catalog.failOnCommit = false
  offered : s.catalog.products.contains sale.productId = true

variable {sale : Sale}

theorem Starts.selling {s : Stores} (h : sale.Starts s) : sale.Selling s (.opened s) [] := by
  obtain ⟨l, reached, redeems, created⟩ := h.created
  obtain ⟨sound, free, id, after⟩ := Ledger.createCoupon_eq_ok created
  have wellFormed := reached.wellFormed
  have opened : sale.Open s 0 := by
    refine ⟨?_, h.commits, h.offered, ?_, ?_⟩
    · rw [after, Ledger.failOnRedeem_addCoupon, redeems]
    · rw [after, definition, id, Ledger.definition?_addCoupon, if_pos rfl]
    · rw [after, key, id, Ledger.counter?_addCoupon _ wellFormed.counter?_next, if_pos rfl]
      rfl
  have wellFormed' : s.ledger.WellFormed := by
    rw [after]
    exact wellFormed.addCoupon sound free
  exact
    { sound := .opened wellFormed'
      open_now := opened
      fits := fun x member => by cases member
      admits := fun b member => by cases member
      spared := fun request member => by cases member
      records := by rw [heldBy, List.countP_nil, Nat.add_zero]; rfl
      sold := by rw [heldBy, List.countP_nil, Nat.add_zero]; rfl }

end Sale

/-- The attempt has succeeded. -/
def Buyer.succeeded (b : Buyer) : Bool :=
  match b.result? with
  | some (.ok _) => true
  | _ => false

namespace Sale

variable {sale : Sale}

/-- What has come of a sale in which `k` attempts succeeded. -/
structure Outcome (sale : Sale) (before : Stores) (m : Market) (k : Nat) : Prop where
  succeeded : m.buyers.countP Buyer.succeeded = k
  /-- All others were refused. -/
  refused : ∀ b ∈ m.buyers, b.succeeded = false →
    ∃ e, b.result? = some (.error e) ∧ sale.Refusal e
  counter : m.stores.ledger.counter? sale.key = some ⟨k, sale.coupon.total⟩
  /-- So many purchases were committed since. -/
  sold : m.stores.catalog.purchases.length = before.catalog.purchases.length + k
  /-- So many redemptions of the coupon were recorded since. -/
  records : m.stores.ledger.redemptionCount sale.id = before.ledger.redemptionCount sale.id + k
  /-- Nobody was refused while uses are left. -/
  exhausted : ∀ b ∈ m.buyers, b.succeeded = false → sale.coupon.total = k

/-- The last stages of an attempt in a sale. -/
theorem Fits.last {used : Nat} {x : Course} (fits : sale.Fits used x)
    {result : Except PurchaseError PurchaseRecord} (final : x.result? = some result) :
    (∃ p r, x = .committed p (some r)) ∨
      ∃ e, x = .failed e ∧ sale.Refusal e ∧ sale.coupon.total ≤ used := by
  cases x with
  | committed p r =>
    cases r with
    | none => exact fits.elim
    | some r => exact .inl ⟨p, r, rfl⟩
  | orphaned => exact fits.elim
  | failed e => exact .inr ⟨e, rfl, fits⟩
  | _ => cases final

namespace Selling

variable {before : Stores} {m : Market} {courses : List Course}

/-- The stage at which an attempt has returned. -/
theorem last (h : sale.Selling before m courses) {b : Buyer} {x : Course} (fits : x ∈ courses)
    (at_x : b.At m.stores x) (finished : b.result?.isSome = true) :
    (∃ p r, x = .committed p (some r) ∧ b.result? = some (.ok p)) ∨
      ∃ e, x = .failed e ∧ b.result? = some (.error e) ∧ sale.Refusal e ∧
        sale.coupon.total ≤ heldBy Course.redemption? courses := by
  obtain ⟨result, returned⟩ := Option.isSome_iff_exists.1 finished
  have final := at_x.result returned
  rcases (h.fits x fits).last final with ⟨p, r, rfl⟩ | ⟨e, rfl, refusal, used_up⟩
  · cases final
    exact .inl ⟨p, r, rfl, returned⟩
  · cases final
    exact .inr ⟨e, rfl, returned, refusal, used_up⟩

variable (h : sale.Selling before m courses) (finished : ∀ b ∈ m.buyers, b.result?.isSome = true)

include h finished

/-- All courses have ended. -/
theorem ended {x : Course} (member : x ∈ courses) :
    (∃ p r, x = .committed p (some r)) ∨
      ∃ e, x = .failed e ∧ sale.coupon.total ≤ heldBy Course.redemption? courses := by
  obtain ⟨b, buyer, holder⟩ := h.sound.buyer_of_mem member
  rcases h.last member holder (finished b buyer) with ⟨p, r, same, -⟩ | ⟨e, same, -, -, used_up⟩
  · exact .inl ⟨p, r, same⟩
  · exact .inr ⟨e, same, used_up⟩

/-- Each redemption has its purchase. -/
theorem sales : heldBy Course.purchase? courses = heldBy Course.redemption? courses := by
  refine List.countP_congr fun x member => ?_
  rcases h.ended finished member with ⟨p, r, rfl⟩ | ⟨e, rfl, -⟩ <;> rfl

/-- As many have succeeded as uses were taken. -/
theorem successes : m.buyers.countP Buyer.succeeded = heldBy Course.redemption? courses := by
  have together : m.buyers.map Buyer.succeeded = courses.map fun x => x.redemption?.isSome := by
    refine List.ext_getElem? fun i => ?_
    rw [List.getElem?_map, List.getElem?_map]
    cases buyer : m.buyers[i]? with
    | none =>
      have beyond := List.getElem?_eq_none_iff.1 buyer
      rw [← h.sound.length] at beyond
      rw [List.getElem?_eq_none_iff.2 beyond]
      rfl
    | some b =>
      obtain ⟨x, course, holder⟩ := h.sound.course_of buyer
      have member := List.mem_of_getElem? course
      rw [course, Option.map_some, Option.map_some, Buyer.succeeded]
      rcases h.last member holder (finished b (List.mem_of_getElem? buyer)) with
        ⟨p, r, rfl, returned⟩ | ⟨e, rfl, returned, -⟩ <;> rw [returned] <;> rfl
  have counted := congrArg (List.countP fun success => success) together
  rwa [List.countP_map, List.countP_map] at counted

/-- As many uses were taken as there were attempts or uses, whichever is less. -/
theorem quota : heldBy Course.redemption? courses = min m.buyers.length sale.coupon.total.toNat := by
  have bounded : (heldBy Course.redemption? courses : Int) ≤ sale.coupon.total :=
    (h.sound.wellFormed.bounds sale.key _ h.open_now.counter).2.2
  have attempts : heldBy Course.redemption? courses ≤ courses.length := List.countP_le_length
  rw [h.sound.length] at attempts
  by_cases left : (heldBy Course.redemption? courses : Int) < sale.coupon.total
  · have all : heldBy Course.redemption? courses = courses.length := by
      refine List.countP_eq_length.2 fun x member => ?_
      rcases h.ended finished member with ⟨p, r, rfl⟩ | ⟨e, rfl, used_up⟩
      · rfl
      · omega
    rw [h.sound.length] at all
    omega
  · omega

/-- **The end of a sale.** -/
theorem outcome : sale.Outcome before m (min m.buyers.length sale.coupon.total.toNat) := by
  rw [← h.quota finished]
  have failed : ∀ b ∈ m.buyers, b.succeeded = false →
      (∃ e, b.result? = some (.error e) ∧ sale.Refusal e) ∧
        sale.coupon.total ≤ heldBy Course.redemption? courses := by
    intro b member unsuccessful
    obtain ⟨x, course, holder⟩ := h.sound.course_of_mem member
    rcases h.last course holder (finished b member) with
      ⟨p, r, rfl, returned⟩ | ⟨e, rfl, returned, refusal, used_up⟩
    · rw [Buyer.succeeded, returned] at unsuccessful
      cases unsuccessful
    · exact ⟨⟨e, returned, refusal⟩, used_up⟩
  have bounds := h.sound.wellFormed.bounds sale.key _ h.open_now.counter
  exact
    { succeeded := h.successes finished
      refused := fun b member unsuccessful => (failed b member unsuccessful).1
      counter := h.open_now.counter
      sold := by rw [h.sold, h.sales finished]
      records := h.records
      exhausted := fun b member unsuccessful =>
        Int.le_antisymm (failed b member unsuccessful).2 bounds.2.2 }

end Selling

/-- A schedule of moves that the sale allows keeps its account. -/
theorem Starts.run {before : Stores} (starts : sale.Starts before) {moves : List Move}
    (allowed : ∀ move ∈ moves, sale.Allows move) :
    ∃ courses, sale.Selling before ((Market.opened before).run moves) courses := by
  induction moves using List.reverseRecOn with
  | nil => exact ⟨[], starts.selling⟩
  | append_singleton moves move ih =>
    obtain ⟨courses, selling⟩ := ih fun move member => allowed move (List.mem_append_left _ member)
    rw [Market.run, List.foldl_append]
    exact selling.exec (allowed move List.mem_concat_self)

/-- **Quotas are exact under races.** When all attempts to use a coupon have returned, whatever the
order of their calls, the uses of the coupon went to as many as there are uses or attempts. -/
theorem exact_quota {before : Stores} (starts : sale.Starts before) {moves : List Move}
    (allowed : ∀ move ∈ moves, sale.Allows move)
    (finished : ∀ b ∈ ((Market.opened before).run moves).buyers, b.result?.isSome = true) :
    sale.Outcome before ((Market.opened before).run moves)
      (min ((Market.opened before).run moves).buyers.length sale.coupon.total.toNat) := by
  obtain ⟨courses, selling⟩ := starts.run allowed
  exact selling.outcome finished

/-- A sale with one use. -/
def lastUse : Sale where
  coupon := Ledger.single
  id := ⟨1⟩
  productId := ⟨1⟩
  own := fun p scope => by cases scope

/-- Two attempts make the same calls by turns, and only one of them gets the use that both were told
of. -/
theorem exact_quota_last_use :
    let script : HostScript := fun _ => HostAnswers.stopped ⟨5, 0⟩
    let before : Stores := ⟨(Ledger.empty.createCoupon Ledger.single).2,
      (Catalog.empty.addProduct "cup" ⟨100⟩ ⟨0, 0⟩).2⟩
    let first : Attempt := ⟨⟨⟨2⟩, .user⟩, ⟨1⟩, some "ONCE"⟩
    let second : Attempt := ⟨⟨⟨3⟩, .user⟩, ⟨1⟩, some "ONCE"⟩
    let moves : List Move := .enter first script :: .enter second script ::
      (List.replicate 7 [.turn 0 script, .turn 1 script]).flatten
    let after := (Market.opened before).run moves
    lastUse.Starts before ∧ (∀ move ∈ moves, lastUse.Allows move) ∧
      (∀ b ∈ after.buyers, b.result?.isSome = true) ∧ after.buyers.length = 2 ∧
      lastUse.Outcome before after 1 := by
  intro script before first second moves after
  have starts : lastUse.Starts before := ⟨⟨_, .empty, rfl, rfl⟩, rfl, rfl⟩
  have allowed : ∀ move ∈ moves, lastUse.Allows move := by
    refine List.forall_mem_cons.2 ⟨⟨rfl, rfl, nofun⟩, List.forall_mem_cons.2 ⟨⟨rfl, rfl, nofun⟩, ?_⟩⟩
    intro move member
    obtain ⟨turns, repeated, member⟩ := List.mem_flatten.1 member
    obtain rfl := List.eq_of_mem_replicate repeated
    have valid : ∀ n, lastUse.Valid (script n).time := fun _ => ⟨by decide, by decide⟩
    rcases List.mem_cons.1 member with rfl | member
    · exact valid
    · cases List.mem_singleton.1 member
      exact valid
  have finished : ∀ b ∈ after.buyers, b.result?.isSome = true := by decide +kernel
  have two : after.buyers.length = 2 := by decide +kernel
  have outcome := exact_quota starts allowed finished
  rw [two] at outcome
  exact ⟨starts, allowed, finished, two, outcome⟩

end Sale

end Couponry
