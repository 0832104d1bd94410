import Couponry.Proofs.Network.Shop

/-!
# Redemptions that are left behind

A purchase that fails may leave a redemption behind in two cases: its commit failed after the
redemption, which it returns and counts; or the reply to its redemption was lost, and then it returns
the failure of the network and nobody counts it. There is no third case, in any run.
-/

namespace Couponry

open Couponry.Http

namespace Shop

/-- The redemptions that purchases have left behind are accounted for. -/
structure Accounted (m : Shop) : Prop where
  /-- What was made on behalf of purchases that were not committed. -/
  left : ((m.errands.filter Errand.uncommitted).flatMap Errand.redemptions).length =
    m.errands.countP Errand.isOrphaned + m.errands.countP Errand.isUnheard
  /-- The counter has been raised for those that were returned as left behind, and no others. -/
  counted : (∀ e ∈ m.errands, e.result?.isSome = true) →
    Observation.total m.journal .orphanedRedemptions = m.errands.countP Errand.isOrphaned
  /-- A purchase whose redemption nobody has heard of returns the failure of the network. -/
  unheard : ∀ e ∈ m.errands, e.isUnheard = true →
    e.purchases = [] ∧ e.redemptions.length = 1 ∧ ∃ seen, e.order.fates.redeem = .replyLost seen ∧
      e.result? = some (.error (.coupon (.internal seen.message)))

end Shop

/-! ## One order -/

/-- An order with the tally of its calls. -/
structure Post where
  errand : Errand
  tally : Tally

namespace Post

/-- The tally is that of the order. -/
structure Sound (s : Stores) (p : Post) : Prop where
  follows : p.errand.rest.Follows Tally.Step (Tally.Ended p.errand.order.fates) p.tally
  redeemed : p.errand.redemptions.length = p.tally.redeemed
  bought : p.errand.purchases = p.tally.bought
  kept : p.tally.KeptBy s

section Sound

variable {s s' : Stores} {p : Post}

theorem enter {base : Url} (split : base.Sealed) (o : Order) :
    Sound s ⟨.enter base o, .start⟩ where
  follows := Tally.follows_purchase split o.fates o.attempt.caller o.attempt.productId o.attempt.coupon
  redeemed := rfl
  bought := rfl
  kept := nofun

/-- Nobody else can break this. -/
theorem Sound.later (h : p.Sound s) {own : Option TxId}
    (later : Catalog.Later own s.catalog s'.catalog)
    (other : ∀ tx, p.tally.tx? = some tx → own ≠ some tx) :
    p.Sound s' where
  follows := h.follows
  redeemed := h.redeemed
  bought := h.bought
  kept tx records pending :=
    (h.kept tx records pending).later later (other tx (by rw [Tally.tx?, pending]; rfl))

/-- An open transaction was handed out. -/
theorem Sound.tx_le (h : p.Sound s) {tx : TxId} (open_ : p.tally.tx? = some tx) :
    tx.value ≤ s.catalog.lastTx := by
  obtain ⟨⟨tx, records⟩, pending, rfl⟩ := Option.map_eq_some_iff.1 open_
  exact (h.kept tx records pending).1

/-- The order after a call. -/
theorem Sound.step (h : p.Sound s) {c : SystemCall}
    {next : SystemCalls.Answer c → SystemProgram (Except PurchaseError PurchaseRecord)}
    (rest : p.errand.rest = .ask c next) {host : HostAnswers} {answer : SystemCalls.Answer c}
    (served : s.serve host c = (answer, s')) : ∃ y,
      Sound s' ⟨⟨p.errand.order, next answer, p.errand.changes ++ [⟨s, s'⟩]⟩, y⟩ ∧
        Tally.Counts s s' p.tally c.notes y ∧ Tally.Step p.tally c answer y := by
  have follows := h.follows
  rw [rest] at follows
  obtain ⟨y, go, follows⟩ := follows answer
  have counts := go.counts h.kept served
  refine ⟨y, ⟨follows, ?_, ?_, counts.kept⟩, counts, go⟩
  · rw [counts.redeemed, ← h.redeemed]
    simp [Errand.redemptions]
  · rw [counts.bought, ← h.bought]
    simp [Errand.purchases]

/-- What has returned has ended. -/
theorem Sound.ended (h : p.Sound s) {result : Except PurchaseError PurchaseRecord}
    (returned : p.errand.result? = some result) :
    Tally.Ended p.errand.order.fates p.tally result := by
  have follows := h.follows
  unfold Errand.result? at returned
  split at returned
  · next final rest =>
    cases returned
    rw [rest] at follows
    exact follows
  · cases returned

end Sound

end Post

/-- A call names no transaction but the open one. -/
theorem Tally.Step.later {s s' : Stores} {host : HostAnswers} {x y : Tally} {c : SystemCall}
    {answer : SystemCalls.Answer c} (go : Step x c answer y)
    (served : s.serve host c = (answer, s')) :
    ∃ own, Catalog.Later own s.catalog s'.catalog ∧ ∀ tx, own = some tx → x.tx? = some tx := by
  have after : (s.serve host c).2 = s' := by rw [served]
  subst after
  cases c with
  | store c => exact ⟨none, .refl none _, nofun⟩
  | host c => exact ⟨none, .refl none _, nofun⟩
  | products c =>
    refine ⟨c.tx?, .answer s.catalog c, fun tx named => ?_⟩
    cases go with
    | quiet quiet =>
      cases c with
      | getProduct => cases named
      | createProduct | begin | insertPurchase | commit | rollback | abandon => exact quiet.elim
    | notBegun | begins => cases named
    | notWritten own | writes own | notCommitted own | commits own | rollsBack own =>
      cases named
      rw [Tally.tx?, own]
      rfl

/-! ## All orders -/

namespace Post

/-- Two orders have no transaction in common. -/
def Apart (p q : Post) : Prop :=
  ∀ tx, p.tally.tx? = some tx → q.tally.tx? ≠ some tx

theorem Apart.symm {p q : Post} (h : p.Apart q) : q.Apart p :=
  fun tx held holds => h tx holds held

/-- Whoever goes on stays apart from the others. -/
theorem Apart.step {s s' : Stores} {p p' q : Post} (h : p.Apart q) (other : q.Sound s)
    {notes : List Observation} (counts : Tally.Counts s s' p.tally notes p'.tally) : p'.Apart q := by
  intro tx open_ same
  rcases counts.fresh tx open_ with before | new
  · exact h tx before same
  · exact absurd (other.tx_le same) (by omega)

end Post

namespace Shop

/-- Every order has its tally, no two share a transaction, and the journal holds what they report. -/
structure Sound (m : Shop) (posts : List Post) : Prop where
  errands : posts.map Post.errand = m.errands
  each : ∀ p ∈ posts, p.Sound m.stores
  apart : posts.Pairwise Post.Apart
  reported : Observation.total m.journal .orphanedRedemptions =
    (posts.map fun p => p.tally.reported).sum

/-- The parts of a list around an index. -/
theorem split_of_getElem? {α : Type} {l : List α} {i : Nat} {a : α} (h : l[i]? = some a) :
    ∃ before after, l = before ++ a :: after ∧ ∀ b, l.set i b = before ++ b :: after := by
  induction l generalizing i with
  | nil => cases h
  | cons first rest ih =>
    cases i with
    | zero =>
      cases h
      exact ⟨[], rest, rfl, fun _ => rfl⟩
    | succ i =>
      obtain ⟨before, after, rfl, set⟩ := ih h
      exact ⟨first :: before, after, rfl, fun b => congrArg (first :: ·) (set b)⟩

section Sound

variable {m : Shop} {posts : List Post}

theorem Sound.opened (s : Stores) : (opened s).Sound [] where
  errands := rfl
  each _ member := absurd member List.not_mem_nil
  apart := .nil
  reported := rfl

theorem Sound.enter (h : m.Sound posts) {base : Url} (split : base.Sealed) (o : Order) :
    (m.exec base (.enter o)).Sound (posts ++ [⟨.enter base o, .start⟩]) where
  errands := by
    rw [List.map_append, h.errands]
    rfl
  each p member := by
    rcases List.mem_append.1 member with old | new
    · exact h.each p old
    · rw [List.mem_singleton.1 new]
      exact Post.enter split o
  apart := by
    refine List.pairwise_append.2 ⟨h.apart, List.pairwise_singleton _ _, ?_⟩
    intro p _ q new tx _ same
    rw [List.mem_singleton.1 new] at same
    cases same
  reported := by
    rw [List.map_append, List.sum_append, ← h.reported]
    rfl

/-- Somebody else has done something. -/
theorem Sound.others (h : m.Sound posts) {s : Stores}
    (later : Catalog.Later none m.stores.catalog s.catalog) : Sound { m with stores := s } posts :=
  { h with each := fun p member => (h.each p member).later later nofun }

theorem Sound.step (h : m.Sound posts) (i : Nat) (host : HostAnswers) :
    ∃ posts', (m.step i host).Sound posts' := by
  unfold Shop.step
  split
  · exact ⟨posts, h⟩
  · next e at_i =>
    split
    · exact ⟨posts, h⟩
    · next c next rest =>
      rw [← h.errands, List.getElem?_map] at at_i
      obtain ⟨p, at_p, rfl⟩ := Option.map_eq_some_iff.1 at_i
      obtain ⟨before, after, rfl, set⟩ := split_of_getElem? at_p
      have sound := h.each p (List.mem_append_right _ List.mem_cons_self)
      obtain ⟨answer, s', served⟩ : ∃ answer s', m.stores.serve host c = (answer, s') := ⟨_, _, rfl⟩
      obtain ⟨y, sound', counts, go⟩ := sound.step rest served
      obtain ⟨own, later, mine⟩ := go.later served
      obtain ⟨apart_before, apart_from, apart⟩ := List.pairwise_append.1 h.apart
      obtain ⟨apart_p, apart_after⟩ := List.pairwise_cons.1 apart_from
      have each_before : ∀ q ∈ before, q.Sound m.stores := fun q member =>
        h.each q (List.mem_append_left _ member)
      have each_after : ∀ q ∈ after, q.Sound m.stores := fun q member =>
        h.each q (List.mem_append_right _ (List.mem_cons_of_mem _ member))
      have apart_of : ∀ q ∈ before, p.Apart q := fun q member =>
        (apart q member p List.mem_cons_self).symm
      have stays : ∀ q : Post, q.Sound m.stores → p.Apart q → q.Sound s' := fun q old apart =>
        old.later later fun tx held same => apart tx (mine tx same) held
      rw [served]
      refine ⟨before ++
          ⟨⟨p.errand.order, next answer, p.errand.changes ++ [⟨m.stores, s'⟩]⟩, y⟩ :: after,
        ?_, ?_, ?_, ?_⟩
      · rw [← set, List.map_set, h.errands]
      · intro q member
        rcases List.mem_append.1 member with early | member
        · exact stays q (each_before q early) (apart_of q early)
        · rcases List.mem_cons.1 member with rfl | late
          · exact sound'
          · exact stays q (each_after q late) (apart_p q late)
      · refine List.pairwise_append.2 ⟨apart_before, List.pairwise_cons.2 ⟨?_, apart_after⟩, ?_⟩
        · intro q late
          exact (apart_p q late).step (each_after q late) counts
        · intro q early r member
          rcases List.mem_cons.1 member with rfl | late
          · exact ((apart_of q early).step (each_before q early) counts).symm
          · exact apart q early r (List.mem_cons_of_mem _ late)
      · have before' := h.reported
        simp only [Observation.total, List.count_append, List.map_append, List.map_cons,
          List.sum_append, List.sum_cons] at before' ⊢
        have told := counts.reported
        rw [Observation.total] at told
        omega

theorem Sound.exec (h : m.Sound posts) {base : Url} (split : base.Sealed) (move : Move) :
    ∃ posts', (m.exec base move).Sound posts' := by
  cases move with
  | enter o => exact ⟨_, h.enter split o⟩
  | step i host => exact h.step i host
  | call c => exact ⟨posts, h.others (.refl none _)⟩
  | addProduct name price now =>
    exact ⟨posts, h.others (.answer m.stores.catalog (.createProduct name price now))⟩
  | failOnRedeem fail => exact ⟨posts, h.others (.refl none _)⟩
  | failOnCommit fail =>
    exact ⟨posts, h.others
      ⟨Nat.le_refl _, fun _ _ _ => rfl, Int.le_refl _, List.prefix_refl _⟩⟩

theorem Sound.run {base : Url} (split : base.Sealed) (s : Stores) (moves : List Move) :
    ∃ posts, ((Shop.opened s).run base moves).Sound posts := by
  suffices all : ∀ (m : Shop) (posts : List Post), m.Sound posts →
      ∃ posts, (m.run base moves).Sound posts from
    all _ _ (.opened s)
  induction moves with
  | nil => exact fun m posts h => ⟨posts, h⟩
  | cons move moves ih =>
    intro m posts h
    obtain ⟨posts', h'⟩ := h.exec split move
    exact ih _ _ h'

end Sound

/-! ## What is left behind -/

section Left

variable {s : Stores} {e : Errand} {x : Tally}

/-- A purchase that has returned has reported what it says. -/
theorem reported_of_sound (h : Post.Sound s ⟨e, x⟩) (returned : e.result?.isSome = true) :
    x.reported = if e.isOrphaned then 1 else 0 := by
  obtain ⟨result, returned⟩ := Option.isSome_iff_exists.1 returned
  have ended : Tally.Ended e.order.fates x result := h.ended returned
  rw [Errand.isOrphaned, returned]
  cases ended with
  | failed e plain => simp [plain]
  | bought | boughtWith | orphaned | unheard => rfl

/-- The redemptions of an order that are left behind are those of the two cases. -/
theorem left_of_sound (h : Post.Sound s ⟨e, x⟩) :
    (if e.uncommitted then e.redemptions.length else 0) =
      (if e.isOrphaned then 1 else 0) + (if e.isUnheard then 1 else 0) := by
  unfold Errand.uncommitted Errand.isOrphaned Errand.isUnheard
  cases returned : e.result? with
  | none => cases e.order.fates.redeem <;> rfl
  | some result =>
    have ended : Tally.Ended e.order.fates x result := h.ended returned
    have redeemed : e.redemptions.length = x.redeemed := h.redeemed
    have bought : e.purchases = x.bought := h.bought
    cases ended with
    | bought record =>
      have nothing := List.length_eq_zero_iff.1 redeemed
      cases e.order.fates.redeem <;> simp [bought, nothing]
    | boughtWith record heard => simp [bought, heard]
    | orphaned code reason heard => simp [bought, heard, redeemed, PurchaseError.isOrphan]
    | failed failure plain =>
      have nothing := List.length_eq_zero_iff.1 redeemed
      cases e.order.fates.redeem <;> simp [bought, nothing, plain]
    | unheard seen lost =>
      obtain ⟨r, one⟩ := List.length_eq_one_iff.1 redeemed
      simp [bought, lost, one, PurchaseError.isOrphan]

/-- A purchase that nobody has heard of returns the failure of the network. -/
theorem unheard_of_sound (h : Post.Sound s ⟨e, x⟩) (unheard : e.isUnheard = true) :
    e.purchases = [] ∧ e.redemptions.length = 1 ∧ ∃ seen, e.order.fates.redeem = .replyLost seen ∧
      e.result? = some (.error (.coupon (.internal seen.message))) := by
  unfold Errand.isUnheard at unheard
  split at unheard
  · next seen lost =>
    obtain ⟨returned, made⟩ := Bool.and_eq_true_iff.1 unheard
    obtain ⟨result, returned⟩ := Option.isSome_iff_exists.1 returned
    have ended : Tally.Ended e.order.fates x result := h.ended returned
    have redeemed : e.redemptions.length = x.redeemed := h.redeemed
    have some : e.redemptions.length ≠ 0 := by
      rw [Ne, List.length_eq_zero_iff, ← List.isEmpty_iff]
      simpa using made
    cases ended with
    | bought | failed => exact absurd redeemed some
    | boughtWith _ heard | orphaned _ _ heard => cases lost.symm.trans heard
    | unheard seen lost => exact ⟨h.bought, redeemed, seen, lost, returned⟩
  · cases unheard

/-- Sums over the orders that have a property, order by order. -/
theorem length_flatMap_filter {errands : List Errand}
    (each : ∀ e ∈ errands, (if e.uncommitted then e.redemptions.length else 0) =
      (if e.isOrphaned then 1 else 0) + (if e.isUnheard then 1 else 0)) :
    ((errands.filter Errand.uncommitted).flatMap Errand.redemptions).length =
      errands.countP Errand.isOrphaned + errands.countP Errand.isUnheard := by
  induction errands with
  | nil => rfl
  | cons e errands ih =>
    have first := each e List.mem_cons_self
    have rest := ih fun e later => each e (List.mem_cons_of_mem _ later)
    rw [List.countP_cons, List.countP_cons, List.filter_cons]
    split
    · next left =>
      rw [if_pos left] at first
      rw [List.flatMap_cons, List.length_append, rest]
      omega
    · next kept =>
      rw [if_neg kept] at first
      omega

theorem sum_reported {posts : List Post}
    (each : ∀ p ∈ posts, p.tally.reported = if p.errand.isOrphaned then 1 else 0) :
    (posts.map fun p => p.tally.reported).sum =
      (posts.map Post.errand).countP Errand.isOrphaned := by
  induction posts with
  | nil => rfl
  | cons p posts ih =>
    have first := each p List.mem_cons_self
    have rest := ih fun q later => each q (List.mem_cons_of_mem _ later)
    rw [List.map_cons, List.sum_cons, List.map_cons, List.countP_cons, rest, first, Nat.add_comm]

end Left

/-- **Redemptions that are left behind are accounted for**, in every run of any number of purchases,
with any fates for their requests and any failures of their commits. -/
theorem accounted_run {text : String} {base : Url} (accepted : Client.base text = .ok base)
    (s : Stores) (moves : List Move) : ((opened s).run base moves).Accounted := by
  obtain ⟨posts, sound⟩ := Sound.run (Client.base_sealed accepted) s moves
  generalize (opened s).run base moves = m at sound
  have post_of : ∀ e ∈ m.errands, ∃ x, Post.Sound m.stores ⟨e, x⟩ := by
    intro e member
    rw [← sound.errands] at member
    obtain ⟨p, posted, rfl⟩ := List.mem_map.1 member
    exact ⟨p.tally, sound.each p posted⟩
  refine ⟨length_flatMap_filter ?_, ?_, ?_⟩
  · intro e member
    obtain ⟨x, sound⟩ := post_of e member
    exact left_of_sound sound
  · intro returned
    rw [sound.reported, ← sound.errands]
    refine sum_reported fun p posted => reported_of_sound (sound.each p posted) (returned p.errand ?_)
    rw [← sound.errands]
    exact List.mem_map_of_mem posted
  · intro e member
    obtain ⟨x, sound⟩ := post_of e member
    exact unheard_of_sound sound

/-! ## A reply that is lost -/

/-- Stores with one product and one coupon of two uses. -/
def pair : Stores :=
  ⟨(Ledger.answer (.createCoupon { Ledger.single with total := 2 }) .empty).2,
    (Catalog.empty.addProduct "Mug" ⟨1000⟩ ⟨0, 0⟩).2⟩

/-- Somebody buys the product with the coupon, up to the end. -/
def buying (i : Nat) (fates : Fates) : List Move :=
  .enter ⟨⟨⟨⟨5⟩, .user⟩, ⟨1⟩, some Ledger.single.code⟩, fates⟩ ::
    List.replicate 30 (.step i (.stopped ⟨5, 0⟩))

/-- The base of a service on this machine. -/
def nearby : Url :=
  ⟨[[]], none⟩

/-- The reply to one redemption is lost, and then the commit after another fails. -/
theorem accounted_run_both :
    Client.base "http://127.0.0.1:8080" = .ok nearby ∧
      ((opened pair).run nearby (buying 0 ⟨.delivered, .replyLost .timedOut, none⟩ ++
        .failOnCommit true :: buying 1 ⟨.delivered, .delivered, none⟩)).Accounted := by
  have accepted : Client.base "http://127.0.0.1:8080" = .ok nearby := rfl
  exact ⟨accepted, accounted_run accepted pair _⟩

/-- **A redemption is left behind that is neither returned nor counted.** The coupon is used, the
purchase is not committed, and what the buyer is told is that the service timed out. -/
theorem left_unreported :
    Client.base "http://127.0.0.1:8080" = .ok nearby ∧
      ((opened pair).run nearby (buying 0 ⟨.delivered, .replyLost .timedOut, none⟩)).errands.map
        (fun e => (e.result?.isSome, e.purchases.length, e.redemptions.length, e.isOrphaned)) =
          [(true, 0, 1, false)] ∧
      Observation.total ((opened pair).run nearby
        (buying 0 ⟨.delivered, .replyLost .timedOut, none⟩)).journal .orphanedRedemptions = 0 := by
  refine ⟨rfl, ?_⟩
  decide +kernel

end Shop

end Couponry
