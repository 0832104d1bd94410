import Couponry.Proofs.Purchase.Turn
import Mathlib.Data.List.Induction
import Mathlib.Logic.Function.Basic

/-!
# Conservation

However the calls of attempts and other requests are interleaved, and whenever redemptions and commits
are made to fail: each committed purchase with a coupon has a redemption of its own, and a redemption
without a purchase is one whose attempt says so or is about to commit. The induction is on the moves;
`Sound` is what one move preserves, for all attempts at once, each at a stage of its own course.
-/

namespace Couponry

section Lists

variable {α : Type} {l : List α} {a x : α} {i j : Nat}

theorem of_getElem?_concat (h : (l ++ [a])[i]? = some x) : l[i]? = some x ∨ i = l.length ∧ x = a := by
  rw [List.getElem?_append] at h
  split at h
  · exact .inl h
  · have single : i - l.length = 0 ∧ a = x := by simpa [List.getElem?_singleton] using h
    exact .inr ⟨by omega, single.2.symm⟩

theorem of_getElem?_set (h : (l.set i a)[j]? = some x) : j ≠ i ∧ l[j]? = some x ∨ j = i ∧ x = a := by
  rw [List.getElem?_set] at h
  split at h
  · next same =>
    split at h
    · cases h
      exact .inr ⟨same.symm, rfl⟩
    · cases h
  · next other => exact .inl ⟨Ne.symm other, h⟩

end Lists

/-- No two of these courses hold the same. -/
def Exclusive {α : Type} (held : Course → Option α) (courses : List Course) : Prop :=
  ∀ (i j : Nat) (x y : Course) (v : α), courses[i]? = some x → courses[j]? = some y →
    held x = some v → held y = some v → i = j

namespace Exclusive

variable {α : Type} {held : Course → Option α} {courses : List Course}

theorem nil : Exclusive held [] := by
  intro i j x y v first
  cases first

theorem concat (h : Exclusive held courses) {z : Course} (none : held z = none) :
    Exclusive held (courses ++ [z]) := by
  intro i j x y v first second holds holds'
  rcases of_getElem?_concat first with first | ⟨-, rfl⟩
  · rcases of_getElem?_concat second with second | ⟨-, rfl⟩
    · exact h i j x y v first second holds holds'
    · rw [none] at holds'
      cases holds'
  · rw [none] at holds
    cases holds

/-- A course may go on to hold what nobody holds. -/
theorem set (h : Exclusive held courses) {k : Nat} {w z : Course} (before : courses[k]? = some w)
    (new : ∀ v, held z = some v → held w = some v ∨ ∀ y ∈ courses, held y ≠ some v) :
    Exclusive held (courses.set k z) := by
  have other : ∀ j y v, courses[j]? = some y → held z = some v → held y = some v → k = j := by
    intro j y v at_j holds holds'
    rcases new v holds with old | fresh
    · exact h k j w y v before at_j old holds'
    · exact absurd holds' (fresh y (List.mem_of_getElem? at_j))
  intro i j x y v first second holds holds'
  rcases of_getElem?_set first with ⟨-, at_i⟩ | ⟨rfl, rfl⟩
  · rcases of_getElem?_set second with ⟨-, at_j⟩ | ⟨rfl, rfl⟩
    · exact h i j x y v at_i at_j holds holds'
    · exact (other i x v at_i holds' holds).symm
  · rcases of_getElem?_set second with ⟨-, at_j⟩ | ⟨rfl, -⟩
    · exact other j y v at_j holds holds'
    · rfl

end Exclusive

/-! ## What is held -/

namespace Course.Holds

variable {s : Stores} {b : Buyer} {x : Course}

theorem tx_le (h : x.Holds s b) {tx : TxId} (held : x.tx? = some tx) :
    tx.value ≤ s.catalog.lastTx := by
  cases x with
  | opened t | refused t e =>
    cases held
    exact h.2.1
  | written t p | found t p c | redeeming t p c now =>
    cases held
    exact h.2.1.1
  | redeemed t p r =>
    cases held
    exact h.2.2.1.1
  | _ => cases held

theorem wrote (h : x.Holds s b) {p : PurchaseRecord} (held : x.record? = some p) :
    b.attempt.Wrote s.catalog p := by
  cases x with
  | written t q =>
    cases held
    exact h.2.2
  | found t q c | redeeming t q c now =>
    cases held
    exact h.2.2.1
  | redeemed t q r =>
    cases held
    exact h.2.2.2
  | committed q r =>
    cases held
    cases r with
    | none => exact h.2.2.1
    | some r => exact h.2.2
  | _ => cases held

theorem redeemed_of (h : x.Holds s b) {r : RedemptionRecord} (held : x.redemption? = some r) :
    b.Redeemed s.ledger r := by
  cases x with
  | redeemed t p q | orphaned q code reason =>
    cases held
    exact h.1
  | committed p q =>
    cases held
    exact h.1
  | _ => cases held

theorem redemption_of_mem (h : x.Holds s b) {r : RedemptionRecord} (made : r ∈ b.redemptions) :
    x.redemption? = some r := by
  have none : b.redemptions = [] → x.redemption? = some r := fun none => by
    rw [none] at made
    cases made
  have only : ∀ q, b.Redeemed s.ledger q → some q = some r := fun q redeemed => by
    rw [redeemed.only] at made
    rw [List.mem_singleton.1 made]
  cases x with
  | start | checking | timed | granting | ready => exact none (Buyer.Clean.redemptions h)
  | opened | written | found | redeeming | refused | failed => exact none h.1.redemptions
  | redeemed tx p q | orphaned q code reason => exact only q h.1
  | committed p q =>
    cases q with
    | none => exact none h.1
    | some q => exact only q h.1

end Course.Holds

/-! ## The invariant -/

namespace Market

/-- Every attempt is at a stage of its course, no two hold the same, and all purchases but those that
were there before are theirs. -/
structure Sound (old : List PurchaseRecord) (m : Market) (courses : List Course) : Prop where
  wellFormed : m.stores.ledger.WellFormed
  length : courses.length = m.buyers.length
  buyer : ∀ (i : Nat) (b : Buyer) (x : Course), m.buyers[i]? = some b → courses[i]? = some x →
    b.At m.stores x
  txs : Exclusive Course.tx? courses
  records : Exclusive Course.record? courses
  redemptions : Exclusive Course.redemption? courses
  purchases : ∀ p ∈ m.stores.catalog.purchases, p ∈ old ∨ ∃ x ∈ courses, x.purchase? = some p

namespace Sound

variable {old : List PurchaseRecord} {m : Market} {courses : List Course}

/-- The attempt at a stage. -/
theorem buyer_of (h : m.Sound old courses) {i : Nat} {x : Course} (at_i : courses[i]? = some x) :
    ∃ b, m.buyers[i]? = some b ∧ b.At m.stores x := by
  have bound : i < m.buyers.length := by
    rw [← h.length]
    exact (List.getElem?_eq_some_iff.1 at_i).1
  exact ⟨_, List.getElem?_eq_getElem bound, h.buyer i _ x (List.getElem?_eq_getElem bound) at_i⟩

/-- The stage of an attempt. -/
theorem course_of (h : m.Sound old courses) {i : Nat} {b : Buyer} (at_i : m.buyers[i]? = some b) :
    ∃ x, courses[i]? = some x ∧ b.At m.stores x := by
  have bound : i < courses.length := by
    rw [h.length]
    exact (List.getElem?_eq_some_iff.1 at_i).1
  exact ⟨_, List.getElem?_eq_getElem bound, h.buyer i b _ at_i (List.getElem?_eq_getElem bound)⟩

/-- Somebody is at each stage. -/
theorem buyer_of_mem (h : m.Sound old courses) {x : Course} (member : x ∈ courses) :
    ∃ b ∈ m.buyers, b.At m.stores x := by
  obtain ⟨i, at_i⟩ := List.mem_iff_getElem?.1 member
  obtain ⟨b, buyer, holder⟩ := h.buyer_of at_i
  exact ⟨b, List.mem_of_getElem? buyer, holder⟩

/-- Everybody is at some stage. -/
theorem course_of_mem (h : m.Sound old courses) {b : Buyer} (member : b ∈ m.buyers) :
    ∃ x ∈ courses, b.At m.stores x := by
  obtain ⟨i, at_i⟩ := List.mem_iff_getElem?.1 member
  obtain ⟨x, course, holder⟩ := h.course_of at_i
  exact ⟨x, List.mem_of_getElem? course, holder⟩

theorem opened {s : Stores} (wellFormed : s.ledger.WellFormed) :
    (opened s).Sound s.catalog.purchases [] where
  wellFormed := wellFormed
  length := rfl
  buyer i b x none := by cases none
  txs := .nil
  records := .nil
  redemptions := .nil
  purchases p made := .inl made

/-- What others do keeps the invariant, if it commits no purchase. -/
theorem others (h : m.Sound old courses) {s : Stores} {requests : List (CouponProgram Unit)}
    (wellFormed : s.ledger.WellFormed) (ledger : Ledger.Later m.stores.ledger s.ledger)
    (catalog : Catalog.Later none m.stores.catalog s.catalog)
    (purchases : s.catalog.purchases = m.stores.catalog.purchases) :
    Sound old ⟨s, m.buyers, requests⟩ courses where
  wellFormed := wellFormed
  length := h.length
  buyer i b x at_i at_i' := by
    obtain ⟨follows, settled, holds⟩ := h.buyer i b x at_i at_i'
    exact ⟨follows, settled, holds.later ledger catalog (fun _ _ => nofun)⟩
  txs := h.txs
  records := h.records
  redemptions := h.redemptions
  purchases := purchases ▸ h.purchases

theorem enter (h : m.Sound old courses) (a : Attempt) (script : HostScript) :
    Sound old { m with buyers := m.buyers ++ [.enter a script] } (courses ++ [.start]) where
  wellFormed := h.wellFormed
  length := by simp [h.length]
  buyer i b x at_i at_i' := by
    rcases of_getElem?_concat at_i with before | ⟨rfl, rfl⟩
    · rcases of_getElem?_concat at_i' with before' | ⟨rfl, -⟩
      · exact h.buyer i b x before before'
      · have bound := (List.getElem?_eq_some_iff.1 before).1
        rw [h.length] at bound
        omega
    · rcases of_getElem?_concat at_i' with before' | ⟨-, rfl⟩
      · have bound := (List.getElem?_eq_some_iff.1 before').1
        rw [h.length] at bound
        omega
      · exact .enter a script
  txs := h.txs.concat rfl
  records := h.records.concat rfl
  redemptions := h.redemptions.concat rfl
  purchases p made := by
    rcases h.purchases p made with before | ⟨x, member, committed⟩
    · exact .inl before
    · exact .inr ⟨x, List.mem_append_left _ member, committed⟩

/-- A turn of one attempt keeps the invariant of all. -/
theorem turn (h : m.Sound old courses) {i : Nat} {b b' : Buyer} {x z : Course} {s : Stores}
    (buyer : m.buyers[i]? = some b) (course : courses[i]? = some x) (after : b'.At s z)
    (turned : Course.Turned m.stores s x z) :
    Sound old ⟨s, m.buyers.set i b', m.requests⟩ (courses.set i z) where
  wellFormed := turned.wellFormed
  length := by simp [h.length]
  buyer j c y at_j at_j' := by
    rcases of_getElem?_set at_j with ⟨other, at_j⟩ | ⟨rfl, rfl⟩
    · rcases of_getElem?_set at_j' with ⟨-, at_j'⟩ | ⟨same, -⟩
      · obtain ⟨follows, settled, holds⟩ := h.buyer j c y at_j at_j'
        refine ⟨follows, settled, holds.later turned.ledger turned.catalog ?_⟩
        intro tx held same
        exact other (h.txs j i y x tx at_j' course held same)
      · exact absurd same other
    · rcases of_getElem?_set at_j' with ⟨other, -⟩ | ⟨-, rfl⟩
      · exact absurd rfl other
      · exact after
  txs := h.txs.set course fun tx held => by
    rcases turned.fresh.tx tx held with before | new
    · exact .inl before
    · refine .inr fun y member held' => ?_
      obtain ⟨c, -, holder⟩ := h.buyer_of_mem member
      have bound := holder.holds.tx_le held'
      omega
  records := h.records.set course fun p held => by
    rcases turned.fresh.record p held with before | new
    · exact .inl before
    · refine .inr fun y member held' => ?_
      obtain ⟨c, -, holder⟩ := h.buyer_of_mem member
      have bound := (holder.holds.wrote held').issued
      omega
  redemptions := h.redemptions.set course fun r held => by
    rcases turned.fresh.redemption r held with before | new
    · exact .inl before
    · refine .inr fun y member held' => ?_
      obtain ⟨c, -, holder⟩ := h.buyer_of_mem member
      have bound := h.wellFormed.redemptionId_le (holder.holds.redeemed_of held').kept
      omega
  purchases p made := by
    have bound := (List.getElem?_eq_some_iff.1 course).1
    rcases turned.purchases p made with before | new
    · rcases h.purchases p before with before | ⟨y, member, committed⟩
      · exact .inl before
      · obtain ⟨j, at_j⟩ := List.mem_iff_getElem?.1 member
        by_cases same : j = i
        · subst same
          cases course.symm.trans at_j
          exact .inr ⟨z, List.mem_set bound z, turned.kept p committed⟩
        · refine .inr ⟨y, ?_, committed⟩
          refine List.mem_iff_getElem?.2 ⟨j, ?_⟩
          rw [List.getElem?_set, if_neg (Ne.symm same), at_j]
    · exact .inr ⟨z, List.mem_set bound z, new⟩

/-- A call of a request is a call to the ledger, if it is one to a store at all. -/
theorem advance {l : Ledger} (wellFormed : l.WellFormed) (host : HostAnswers)
    (p : CouponProgram Unit) :
    (advance host p l).2.WellFormed ∧ Ledger.Later l (advance host p l).2 := by
  cases p with
  | done a => exact ⟨wellFormed, .refl l⟩
  | ask c next =>
    cases c with
    | store c => exact ⟨wellFormed.effect (Ledger.effect_answer l c), .answer l c⟩
    | host c => exact ⟨wellFormed, .refl l⟩

/-- A move of no attempt leaves all courses where they are. -/
theorem aside (h : m.Sound old courses) {move : Move} (aside : move.ofAttempt = false) :
    (m.exec move).Sound old courses := by
  cases move with
  | enter a script => cases aside
  | turn i script => cases aside
  | ask request => exact h.others h.wellFormed (.refl _) (.refl _ _) rfl
  | serve i host =>
    simp only [Market.exec]
    split
    · exact h
    · next p _ =>
      obtain ⟨wellFormed, later⟩ := advance h.wellFormed host p
      exact h.others wellFormed later (.refl _ _) rfl
  | addProduct name price now =>
    exact h.others h.wellFormed (.refl _)
      (.answer m.stores.catalog (.createProduct name price now)) rfl
  | failOnRedeem fail =>
    refine h.others (h.wellFormed.switch fail) ?_ (.refl _ _) rfl
    exact ⟨Int.le_refl _, fun _ _ _ => id, List.prefix_refl _⟩
  | failOnCommit fail =>
    refine h.others h.wellFormed (.refl _) ?_ rfl
    exact ⟨Nat.le_refl _, fun _ _ _ => rfl, Int.le_refl _, List.prefix_refl _⟩

/-- **A move keeps the invariant.** -/
theorem exec (h : m.Sound old courses) (move : Move) :
    ∃ courses', (m.exec move).Sound old courses' := by
  cases move with
  | enter a script => exact ⟨_, h.enter a script⟩
  | turn i script =>
    cases buyer : m.buyers[i]? with
    | none =>
      refine ⟨courses, ?_⟩
      simp only [Market.exec, buyer]
      exact h
    | some b =>
      obtain ⟨x, course, holder⟩ := h.course_of buyer
      obtain ⟨z, after, turned⟩ := holder.turned h.wellFormed script
      refine ⟨courses.set i z, ?_⟩
      simp only [Market.exec, buyer]
      exact h.turn buyer course after turned
  | ask | serve | addProduct | failOnRedeem | failOnCommit => exact ⟨courses, h.aside rfl⟩

theorem run {s : Stores} (wellFormed : s.ledger.WellFormed) (moves : List Move) :
    ∃ courses, ((Market.opened s).run moves).Sound s.catalog.purchases courses := by
  induction moves using List.reverseRecOn with
  | nil => exact ⟨[], opened wellFormed⟩
  | append_singleton moves move ih =>
    obtain ⟨courses, sound⟩ := ih
    rw [Market.run, List.foldl_append]
    exact sound.exec move

/-- The stage at which a committed purchase with a coupon is. -/
theorem committed_of_coupon (h : m.Sound [] courses) {p : PurchaseRecord}
    (made : p ∈ m.stores.catalog.purchases) {code : String} (coupon : p.coupon = some code) :
    ∃ (i : Nat) (r : RedemptionRecord), courses[i]? = some (.committed p (some r)) := by
  rcases h.purchases p made with before | ⟨x, member, committed⟩
  · cases before
  · obtain ⟨i, at_i⟩ := List.mem_iff_getElem?.1 member
    obtain ⟨r, rfl⟩ := Course.purchase?_eq_some committed
    obtain ⟨b, -, holder⟩ := h.buyer_of at_i
    cases r with
    | some r => exact ⟨i, r, at_i⟩
    | none =>
      obtain ⟨-, -, wrote, plain⟩ := holder.holds
      rw [wrote.coupon, plain] at coupon
      cases coupon

end Sound

/-! ## Conservation -/

/-- A committed purchase with a coupon. -/
def Couponed (m : Market) : Type :=
  { p : PurchaseRecord // p ∈ m.stores.catalog.purchases ∧ p.coupon.isSome = true }

end Market

namespace Buyer

/-- The attempt has returned that its redemption is an orphan. -/
def ReturnedOrphan (b : Buyer) : Prop :=
  ∃ code reason, b.result? = some (.error (.orphanedRedemption code reason))

/-- The next call of the attempt is its commit. -/
def Committing (b : Buyer) : Prop :=
  ∃ tx next, b.rest = .ask (.products (.commit tx)) next

end Buyer

namespace Market

/-- How committed purchases and redemptions match. -/
structure Conserved (m : Market) (redemption : m.Couponed → RedemptionRecord) : Prop where
  /-- No redemption pays for two purchases. -/
  injective : redemption.Injective
  /-- A purchase with a coupon is matched to a redemption by the same user for the same product, made
  by the attempt that committed it and against a coupon that had the code of the purchase then. -/
  matched : ∀ (p : m.Couponed) (code : String), p.1.coupon = some code →
    redemption p ∈ m.stores.ledger.redemptions ∧ (redemption p).userId = p.1.userId ∧
      (redemption p).productId = some p.1.productId ∧
      ∃ b ∈ m.buyers, b.purchases = [p.1] ∧ b.redemptions = [redemption p] ∧
        b.RedeemedBy code (redemption p)
  /-- The redemptions of attempts that are not matched are those of attempts that have returned so,
  or are between the redemption and the commit. -/
  unmatched : ∀ b ∈ m.buyers, ∀ r ∈ b.redemptions,
    (∀ p, redemption p ≠ r) ↔ b.ReturnedOrphan ∨ b.Committing
  /-- What an attempt returns is committed, and was paid for if it has a coupon. -/
  bought : ∀ b ∈ m.buyers, ∀ p, b.result? = some (.ok p) →
    p ∈ m.stores.catalog.purchases ∧ b.purchases = [p] ∧
      b.redemptions.length = b.attempt.coupon.toList.length
  /-- An attempt that fails has committed nothing, and redeemed nothing unless it says so. -/
  failed : ∀ b ∈ m.buyers, ∀ e, b.result? = some (.error e) →
    b.purchases = [] ∧ (e.isOrphan = false → b.redemptions = [])

section Sound

variable {m : Market} {courses : List Course} (h : m.Sound [] courses)

include h

/-- Whoever holds the redemption of a committed purchase is the attempt that committed it. -/
theorem Sound.owner {p : PurchaseRecord} {r : RedemptionRecord} {i j : Nat} {x : Course}
    (at_p : courses[i]? = some (.committed p (some r))) (at_x : courses[j]? = some x)
    (held : x.redemption? = some r) : x = .committed p (some r) := by
  have same : i = j := h.redemptions i j _ x r at_p at_x rfl held
  rw [← same, at_p] at at_x
  exact (Option.some.inj at_x).symm

theorem Sound.matched {p : PurchaseRecord} {r : RedemptionRecord} {i : Nat}
    (at_p : courses[i]? = some (.committed p (some r))) {code : String} (coupon : p.coupon = some code) :
    r ∈ m.stores.ledger.redemptions ∧ r.userId = p.userId ∧ r.productId = some p.productId ∧
      ∃ b ∈ m.buyers, b.purchases = [p] ∧ b.redemptions = [r] ∧ b.RedeemedBy code r := by
  obtain ⟨b, at_b, holder⟩ := h.buyer_of at_p
  obtain ⟨redeemed, bought, wrote⟩ := holder.holds
  obtain ⟨code', coupon', by_code⟩ := redeemed.by_code
  rw [wrote.coupon, coupon'] at coupon
  cases coupon
  refine ⟨redeemed.kept, ?_, ?_, b, List.mem_of_getElem? at_b, bought.only, redeemed.only, by_code⟩
  · rw [by_code.user, wrote.user]
  · rw [by_code.product, wrote.product]

theorem Sound.bought {b : Buyer} (member : b ∈ m.buyers) {p : PurchaseRecord}
    (returned : b.result? = some (.ok p)) :
    p ∈ m.stores.catalog.purchases ∧ b.purchases = [p] ∧
      b.redemptions.length = b.attempt.coupon.toList.length := by
  obtain ⟨x, -, holder⟩ := h.course_of_mem member
  have final := holder.result returned
  cases x with
  | committed q r =>
    cases final
    cases r with
    | none =>
      obtain ⟨none, bought, -, plain⟩ := holder.holds
      exact ⟨bought.kept, bought.only, by rw [none, plain]; rfl⟩
    | some r =>
      obtain ⟨redeemed, bought, -⟩ := holder.holds
      obtain ⟨code, coupon, -⟩ := redeemed.by_code
      exact ⟨bought.kept, bought.only, by rw [redeemed.only, coupon]; rfl⟩
  | _ => cases final

theorem Sound.failed {b : Buyer} (member : b ∈ m.buyers) {e : PurchaseError}
    (returned : b.result? = some (.error e)) :
    b.purchases = [] ∧ (e.isOrphan = false → b.redemptions = []) := by
  obtain ⟨x, -, holder⟩ := h.course_of_mem member
  have final := holder.result returned
  cases x with
  | orphaned r code reason =>
    cases final
    exact ⟨holder.holds.2, nofun⟩
  | failed e =>
    cases final
    exact ⟨holder.holds.1.2, fun _ => holder.holds.1.1⟩
  | _ => cases final

/-- What is true of the redemption of an attempt, if purchases are matched as their courses say. -/
theorem Sound.unmatched {redemption : m.Couponed → RedemptionRecord}
    (stages : ∀ p, ∃ i : Nat, courses[i]? = some (.committed p.1 (some (redemption p)))) {b : Buyer}
    (member : b ∈ m.buyers) {r : RedemptionRecord} (made : r ∈ b.redemptions) :
    (∀ p, redemption p ≠ r) ↔ b.ReturnedOrphan ∨ b.Committing := by
  obtain ⟨i, at_b⟩ := List.mem_iff_getElem?.1 member
  obtain ⟨x, at_i, holder⟩ := h.course_of at_b
  have held := holder.holds.redemption_of_mem made
  have unmatched : x.purchase? = none → ∀ p, redemption p ≠ r := by
    rintro none p rfl
    obtain ⟨j, at_j⟩ := stages p
    rw [h.owner at_j at_i held] at none
    cases none
  cases x with
  | redeemed tx p q =>
    obtain ⟨next, rest⟩ := holder.committing
    exact ⟨fun _ => .inr ⟨tx, next, rest⟩, fun _ => unmatched rfl⟩
  | orphaned q code reason =>
    exact ⟨fun _ => .inl ⟨code, reason.message, holder.returned rfl⟩, fun _ => unmatched rfl⟩
  | committed p q =>
    cases held
    obtain ⟨redeemed, bought, wrote⟩ := holder.holds
    obtain ⟨code, coupon, -⟩ := redeemed.by_code
    have couponed : p.coupon.isSome = true := by
      rw [wrote.coupon, coupon]
      rfl
    obtain ⟨j, matched⟩ := stages ⟨p, bought.kept, couponed⟩
    have same : j = i := h.records j i _ _ p matched at_i rfl rfl
    rw [same, at_i] at matched
    refine ⟨fun none => ?_, ?_⟩
    · cases matched
      exact absurd rfl (none _)
    · have returned : b.result? = some (.ok p) := holder.returned rfl
      rintro (⟨code, reason, orphan⟩ | ⟨tx, next, rest⟩)
      · cases returned.symm.trans orphan
      · rw [Buyer.result?, rest] at returned
        cases returned
  | _ => cases held

/-- **The courses match** each committed purchase to the redemption that its attempt holds. -/
theorem Sound.conserved : ∃ redemption, m.Conserved redemption := by
  have stages : ∀ p : m.Couponed, ∃ (r : RedemptionRecord) (i : Nat),
      courses[i]? = some (.committed p.1 (some r)) := by
    rintro ⟨p, made, some⟩
    obtain ⟨code, coupon⟩ := Option.isSome_iff_exists.1 some
    obtain ⟨i, r, at_i⟩ := h.committed_of_coupon made coupon
    exact ⟨r, i, at_i⟩
  choose redemption index at_index using stages
  have injective : redemption.Injective := by
    intro p q same
    have both := h.owner (at_index p) (at_index q) (congrArg some same.symm)
    exact Subtype.ext (Course.committed.inj both).1.symm
  exact
    ⟨redemption,
      { injective := injective
        matched := fun p code coupon => h.matched (at_index p) coupon
        unmatched := fun b member r made => h.unmatched (fun p => ⟨index p, at_index p⟩) member made
        bought := fun b member p returned => h.bought member returned
        failed := fun b member e returned => h.failed member returned }⟩

end Sound

/-- **Conservation of purchases and redemptions**, in every state that moves lead to from empty
stores. -/
theorem conserved_run (moves : List Move) :
    ∃ redemption, ((opened ⟨.empty, .empty⟩).run moves).Conserved redemption := by
  obtain ⟨courses, sound⟩ := Sound.run (s := ⟨.empty, .empty⟩) .empty moves
  exact sound.conserved

end Market

end Couponry
