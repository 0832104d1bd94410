import Couponry.Proofs.Ledger.WellFormed
import Mathlib.Data.List.Induction

/-!
# Accounting for uses

A book is a ledger with the replies to all calls that led to it. `accounts_ofCommands` says that the
ledger's counters and its list of redemptions are what the replies account for, whatever coupons were
handed to the redemptions. The induction is on the commands; `Sound` is what one command preserves.
-/

namespace Couponry

namespace Reply

/-- The counter that a successful redemption names by the scope and the id of the coupon handed over
and by the subject. -/
def counter? : Reply → Option Ledger.CounterKey
  | ⟨.redeem coupon userId productId _, .ok _⟩ =>
    Ledger.CounterKey.of? coupon.id userId productId coupon.scope
  | _ => none

/-- The record that a successful call made: what it was called with, under the id it was given. -/
def record? : Reply → Option RedemptionRecord
  | ⟨.insertRedemption id userId productId time, .ok r⟩ => some ⟨r.id, id, userId, productId, time⟩
  | ⟨.redeem coupon userId productId time, .ok r⟩ => some ⟨r.id, coupon.id, userId, productId, time⟩
  | _ => none

theorem creation_inj {c other : NewCoupon} {id k : CouponId} (same : creation c id = creation other k) :
    c = other ∧ id = k := by
  cases same
  exact ⟨rfl, rfl⟩

@[simp] theorem counter?_creation (c : NewCoupon) (id : CouponId) : (creation c id).counter? = none := rfl

@[simp] theorem record?_creation (c : NewCoupon) (id : CouponId) : (creation c id).record? = none := rfl

theorem counter?_redemption {coupon : Coupon} {r : RedemptionRecord} {key : Ledger.CounterKey}
    (named : Ledger.counterKey coupon.scope coupon.id r.userId r.productId = .ok key) :
    (redemption coupon r).counter? = some key :=
  Ledger.counterKey_eq_ok_iff.1 named

theorem record?_redemption {coupon : Coupon} {r : RedemptionRecord} (of : r.couponId = coupon.id) :
    (redemption coupon r).record? = some r := by
  show some (⟨r.id, coupon.id, r.userId, r.productId, r.redeemedAt⟩ : RedemptionRecord) = some r
  rw [← of]

theorem counter?_of_quiet {reply : Reply} (quiet : reply.changes = false) : reply.counter? = none := by
  obtain ⟨call, answer⟩ := reply
  cases call <;> cases answer <;> first | rfl | cases quiet

theorem record?_of_quiet {reply : Reply} (quiet : reply.changes = false) : reply.record? = none := by
  obtain ⟨call, answer⟩ := reply
  cases call <;> cases answer <;> first | rfl | cases quiet

end Reply

/-- A ledger, and the replies to the calls that led to it. -/
structure Book where
  ledger : Ledger
  history : List Reply

namespace Book

open Ledger (Command CounterKey Effect counterKey)

/-- Nothing has happened yet. -/
def blank : Book :=
  ⟨.empty, []⟩

/-- The book after a command. -/
def exec (b : Book) : Command → Book
  | .call c => ⟨(Ledger.answer c b.ledger).2, b.history ++ [⟨c, (Ledger.answer c b.ledger).1⟩]⟩
  | .failOnRedeem fail => { b with ledger := { b.ledger with failOnRedeem := fail } }

/-- The book of a sequence of commands. -/
def ofCommands (commands : List Command) : Book :=
  commands.foldl exec blank

/-- The uses of a counter that replies tell of. -/
def uses (key : CounterKey) (replies : List Reply) : Nat :=
  replies.countP fun reply => decide (reply.counter? = some key)

/-- What the replies account for. -/
structure Accounts (b : Book) : Prop where
  /-- Every counter comes from the creation of its coupon. -/
  created : ∀ key u, b.ledger.counter? key = some u →
    ∃ before c after, b.history = before ++ .creation c key.couponId :: after
  /-- A counter has the total of that creation and counts the redemptions since that named it. -/
  counted : ∀ key u before c after, b.ledger.counter? key = some u →
    b.history = before ++ .creation c key.couponId :: after →
    key = c.scope.counterKey key.couponId ∧ u.total = c.total ∧ 0 ≤ u.used ∧ u.used ≤ u.total ∧
      u.used = uses key after
  /-- A redemption succeeds against a stored coupon of the id and the scope that were handed over,
  while the stored counter has uses left, and moves this counter alone. -/
  redeemed : ∀ coupon userId productId time r after,
    b.ledger.redeem coupon userId productId time = (.ok r, after) →
    ∃ stored key u, b.ledger.coupons.get? coupon.id = some stored ∧ stored.id = coupon.id ∧
      stored.scope = coupon.scope ∧
      CounterKey.of? coupon.id userId productId coupon.scope = some key ∧
      b.ledger.counter? key = some u ∧ u.used < u.total ∧ r.couponId = coupon.id ∧
      ∀ other, after.counter? other =
        if other = key then some ⟨u.used + 1, u.total⟩ else b.ledger.counter? other
  /-- Once a coupon was deleted nothing is redeemed by its id, whatever has its code now. -/
  gone : ∀ coupon userId productId time, .deletion coupon.id ∈ b.history →
    ∃ e, (b.ledger.redeem coupon userId productId time).1 = .error e
  /-- Of the coupon that is handed over only the id and the scope matter. -/
  heedless : ∀ coupon other userId productId time, other.id = coupon.id →
    other.scope = coupon.scope →
    b.ledger.redeem other userId productId time = b.ledger.redeem coupon userId productId time
  /-- The redemptions are the records that calls made, in the order of the calls. -/
  recorded : b.ledger.redemptions = b.history.filterMap Reply.record?
  /-- They are numbered from one. -/
  numbered : b.ledger.redemptions.map RedemptionRecord.id =
    (List.range b.ledger.redemptions.length).map fun i : Nat => (i : Int) + 1

/-- What a command preserves. -/
structure Sound (b : Book) : Prop where
  wellFormed : b.ledger.WellFormed
  issued : ∀ c id, .creation c id ∈ b.history → id.value ≤ b.ledger.lastCouponId
  gone : ∀ id, .deletion id ∈ b.history →
    id.value ≤ b.ledger.lastCouponId ∧ b.ledger.definition? id = none
  created : ∀ key u, b.ledger.counter? key = some u →
    ∃ before c after, b.history = before ++ .creation c key.couponId :: after
  counted : ∀ key u before c after, b.ledger.counter? key = some u →
    b.history = before ++ .creation c key.couponId :: after →
    key = c.scope.counterKey key.couponId ∧ u.total = c.total ∧ u.used = uses key after
  recorded : b.ledger.redemptions = b.history.filterMap Reply.record?

theorem uses_concat (key : CounterKey) (replies : List Reply) (reply : Reply) :
    uses key (replies ++ [reply]) = uses key replies + if reply.counter? = some key then 1 else 0 := by
  simp [uses, List.countP_append, List.countP_cons]

/-- The last reply of a history is the one that was looked for, or comes after it. -/
theorem concat_eq_append_cons {α : Type} {before : List α} {x : α} {after history : List α} {last : α}
    (split : history ++ [last] = before ++ x :: after) :
    (after = [] ∧ x = last) ∨ ∃ rest, after = rest ++ [last] ∧ history = before ++ x :: rest := by
  rcases List.eq_nil_or_concat after with rfl | ⟨rest, y, rfl⟩
  · exact .inl ⟨rfl, (List.append_inj' split rfl).2 |> List.singleton_inj.1 |> Eq.symm⟩
  · rw [List.concat_eq_append, ← List.cons_append, ← List.append_assoc] at split
    obtain ⟨same, last⟩ := List.append_inj' split rfl
    refine .inr ⟨rest, ?_, same⟩
    rw [List.concat_eq_append, List.singleton_inj.1 last]

namespace Sound

theorem blank : blank.Sound where
  wellFormed := .empty
  issued _ _ h := by cases h
  gone _ h := by cases h
  created key u h := by cases key <;> simp [Book.blank, Ledger.empty, Ledger.counter?] at h
  counted key u _ _ _ h := by cases key <;> simp [Book.blank, Ledger.empty, Ledger.counter?] at h
  recorded := rfl

variable {b : Book}

theorem created_concat (h : b.Sound) (reply : Reply) {key : CounterKey} {u : Usage}
    (counted : b.ledger.counter? key = some u) :
    ∃ before c after, b.history ++ [reply] = before ++ .creation c key.couponId :: after := by
  obtain ⟨before, c, after, split⟩ := h.created key u counted
  exact ⟨before, c, after ++ [reply], by rw [split, List.append_assoc, List.cons_append]⟩

/-- A counter that was there before a call had counted all redemptions but that of the call. -/
theorem counted_concat (h : b.Sound) {reply : Reply} {key : CounterKey} {u : Usage}
    (old : b.ledger.counter? key = some u) (other : ∀ c, .creation c key.couponId ≠ reply)
    {before after : List Reply} {c : NewCoupon}
    (split : b.history ++ [reply] = before ++ .creation c key.couponId :: after) :
    key = c.scope.counterKey key.couponId ∧ u.total = c.total ∧
      uses key after = u.used + if reply.counter? = some key then 1 else 0 := by
  rcases concat_eq_append_cons split with ⟨-, last⟩ | ⟨rest, rfl, earlier⟩
  · exact absurd last (other c)
  · obtain ⟨named, total, used⟩ := h.counted key u before c rest old earlier
    refine ⟨named, total, ?_⟩
    rw [uses_concat, used]
    split <;> simp

/-- The account after a call that changed no counter. -/
theorem keep (h : b.Sound) {reply : Reply} {l : Ledger} (wellFormed : l.WellFormed)
    (last : l.lastCouponId = b.ledger.lastCouponId)
    (made : ∀ c id, .creation c id ≠ reply)
    (gone : ∀ id, .deletion id = reply ∨ b.ledger.definition? id = none → l.definition? id = none)
    (bound : ∀ id, .deletion id = reply → id.value ≤ l.lastCouponId)
    (uncounted : reply.counter? = none)
    (counters : ∀ key u, l.counter? key = some u → b.ledger.counter? key = some u)
    (recorded : l.redemptions = b.ledger.redemptions ++ reply.record?.toList) :
    Sound ⟨l, b.history ++ [reply]⟩ where
  wellFormed := wellFormed
  issued c id h' := by
    rcases List.mem_append.1 h' with old | new
    · exact last ▸ h.issued c id old
    · exact absurd (List.mem_singleton.1 new) (made c id)
  gone id h' := by
    rcases List.mem_append.1 h' with old | new
    · exact ⟨last ▸ (h.gone id old).1, gone id (.inr (h.gone id old).2)⟩
    · have now := List.mem_singleton.1 new
      exact ⟨bound id now, gone id (.inl now)⟩
  created key u counted := h.created_concat reply (counters key u counted)
  counted key u before c after counted split := by
    obtain ⟨named, total, used⟩ :=
      h.counted_concat (counters key u counted) (fun c => made c _) split
    exact ⟨named, total, by rw [used, uncounted]; simp⟩
  recorded := by
    rw [recorded, h.recorded, List.filterMap_append]
    cases kept : reply.record? <;> simp [kept]

theorem addCoupon (h : b.Sound) {c : NewCoupon} (sound : c.fault? = none)
    (free : b.ledger.codes.get? c.code = none) :
    Sound ⟨b.ledger.addCoupon c, b.history ++ [.creation c b.ledger.nextCouponId]⟩ where
  wellFormed := h.wellFormed.addCoupon sound free
  issued c' id h' := by
    rw [Ledger.lastCouponId_addCoupon]
    rcases List.mem_append.1 h' with old | new
    · have := h.issued c' id old
      omega
    · cases List.mem_singleton.1 new
      exact Int.le_refl _
  gone id h' := by
    rcases List.mem_append.1 h' with old | new
    · obtain ⟨bound, none⟩ := h.gone id old
      rw [Ledger.lastCouponId_addCoupon, Ledger.definition?_addCoupon, if_neg, none]
      · exact ⟨by omega, rfl⟩
      · rintro rfl
        simp only [Ledger.nextCouponId] at bound
        omega
    · cases List.mem_singleton.1 new
  created key u counted := by
    rw [Ledger.counter?_addCoupon c h.wellFormed.counter?_next] at counted
    split at counted
    · next new =>
      subst new
      exact ⟨b.history, c, [], by rw [Ledger.couponId_scopeKey]⟩
    · exact h.created_concat _ counted
  counted key u before c' after counted split := by
    rw [Ledger.counter?_addCoupon c h.wellFormed.counter?_next] at counted
    split at counted
    · next new =>
      cases counted
      subst new
      simp only [Ledger.couponId_scopeKey] at split ⊢
      rcases concat_eq_append_cons split with ⟨rfl, last⟩ | ⟨rest, rfl, earlier⟩
      · cases last
        exact ⟨rfl, rfl, rfl⟩
      · have := h.issued c' b.ledger.nextCouponId (by rw [earlier]; simp)
        simp only [Ledger.nextCouponId] at this
        omega
    · have other : ∀ c', .creation c' key.couponId ≠ Reply.creation c b.ledger.nextCouponId :=
        fun c' same => h.wellFormed.couponId_ne_next counted (Reply.creation_inj same).2
      obtain ⟨named, total, used⟩ := h.counted_concat counted other split
      exact ⟨named, total, by rw [used]; simp⟩
  recorded := by
    rw [Ledger.redemptions_addCoupon, h.recorded, List.filterMap_append]
    simp

theorem redeem (h : b.Sound) {coupon : Coupon} {r : RedemptionRecord} {key : CounterKey} {u : Usage}
    (next : r.id = b.ledger.lastRedemptionId + 1) (of : r.couponId = coupon.id)
    (named : counterKey coupon.scope coupon.id r.userId r.productId = .ok key)
    (counted : b.ledger.counter? key = some u) (left : u.used < u.total) :
    Sound ⟨(b.ledger.setUsage key u.bump r.redeemedAt).addRedemption r,
      b.history ++ [.redemption coupon r]⟩ where
  wellFormed := (h.wellFormed.setUsage counted left r.redeemedAt).addRedemption
    (by rw [Ledger.lastRedemptionId_setUsage, next])
  issued c id h' := by
    rcases List.mem_append.1 h' with old | new
    · show id.value ≤ (b.ledger.setUsage key u.bump r.redeemedAt).lastCouponId
      rw [Ledger.lastCouponId_setUsage]
      exact h.issued c id old
    · cases List.mem_singleton.1 new
  gone id h' := by
    rcases List.mem_append.1 h' with old | new
    · show id.value ≤ (b.ledger.setUsage key u.bump r.redeemedAt).lastCouponId ∧ _
      rw [Ledger.lastCouponId_setUsage, Ledger.definition?_addRedemption,
        Ledger.definition?_setUsage]
      exact h.gone id old
    · cases List.mem_singleton.1 new
  created k v counted' := by
    rw [Ledger.counter?_addRedemption, Ledger.counter?_setUsage counted] at counted'
    split at counted'
    · next same => subst same; exact h.created_concat _ counted
    · exact h.created_concat _ counted'
  counted k v before c after counted' split := by
    have other : ∀ c, Reply.creation c k.couponId ≠ .redemption coupon r := fun _ => nofun
    have names := Reply.counter?_redemption named
    rw [Ledger.counter?_addRedemption, Ledger.counter?_setUsage counted] at counted'
    split at counted'
    · next same =>
      subst same
      cases counted'
      obtain ⟨of, total, used⟩ := h.counted_concat counted other split
      exact ⟨of, total, by rw [used, names]; simp [Usage.bump]⟩
    · next different =>
      obtain ⟨of, total, used⟩ := h.counted_concat counted' other split
      refine ⟨of, total, ?_⟩
      rw [used, names, if_neg fun same => different (Option.some.inj same).symm]
      simp
  recorded := by
    show (b.ledger.setUsage key u.bump r.redeemedAt).redemptions ++ [r] = _
    rw [Ledger.redemptions_setUsage, h.recorded, List.filterMap_append]
    simp [Reply.record?_redemption of]

/-- A call preserves the account. -/
theorem effect (h : b.Sound) {reply : Reply} {l : Ledger} (e : Effect b.ledger reply l) :
    Sound ⟨l, b.history ++ [reply]⟩ := by
  cases e with
  | nothing _ quiet =>
    refine h.keep h.wellFormed rfl ?_ ?_ ?_ (Reply.counter?_of_quiet quiet) (fun _ _ => id) ?_
    · rintro c id rfl
      cases quiet
    · rintro id (rfl | none)
      · cases quiet
      · exact none
    · rintro id rfl
      cases quiet
    · rw [Reply.record?_of_quiet quiet, Option.toList_none, List.append_nil]
  | created c sound free => exact h.addCoupon sound free
  | deleted id c stored =>
    have alive : b.ledger.definition? id = some c.definition := by
      simp [Ledger.definition?, stored]
    refine h.keep (h.wellFormed.removeCoupon stored) rfl (by rintro _ _ ⟨⟩) ?_ ?_ rfl ?_ ?_
    · intro k gone
      rw [Ledger.definition?_removeCoupon]
      rcases gone with same | none
      · cases same
        rw [if_pos rfl]
      · split
        · rfl
        · exact none
    · intro k same
      cases same
      exact (h.wellFormed.issued id _ alive).2
    · intro key u counted
      rw [Ledger.counter?_removeCoupon] at counted
      split at counted
      · cases counted
      · exact counted
    · exact (List.append_nil _).symm
  | inserted r next =>
    refine h.keep (h.wellFormed.addRedemption next) rfl (by rintro _ _ ⟨⟩) ?_ (by rintro _ ⟨⟩) rfl ?_ rfl
    · rintro k (same | none)
      · cases same
      · exact none
    · intro key u counted
      rwa [Ledger.counter?_addRedemption] at counted
  | redeemed coupon r key u next of _ named counted left =>
    exact h.redeem next of named counted left

theorem exec (h : b.Sound) (command : Command) : (b.exec command).Sound := by
  cases command with
  | call c => exact h.effect (Ledger.effect_answer b.ledger c)
  | failOnRedeem fail =>
    have same := Ledger.counter?_failOnRedeem b.ledger fail
    refine ⟨h.wellFormed.switch fail, h.issued, h.gone, ?_, ?_, h.recorded⟩
    · intro key u counted
      exact h.created key u ((same key).symm.trans counted)
    · intro key u before c after counted
      exact h.counted key u before c after ((same key).symm.trans counted)

theorem ofCommands (commands : List Command) : (Book.ofCommands commands).Sound := by
  induction commands using List.reverseRecOn with
  | nil => exact blank
  | append_singleton commands command ih =>
    rw [Book.ofCommands, List.foldl_append]
    exact ih.exec command

/-- By the id of a deleted coupon there is no counter. -/
theorem counter?_of_deletion (h : b.Sound) {key : CounterKey}
    (deleted : .deletion key.couponId ∈ b.history) : b.ledger.counter? key = none := by
  cases counted : b.ledger.counter? key with
  | none => rfl
  | some u =>
    obtain ⟨d, stored, -⟩ := h.wellFormed.counter_live key u counted
    rw [(h.gone _ deleted).2] at stored
    cases stored

end Sound

/-- **Accounting for uses.** Whatever the commands and the coupons that redemptions were handed, the
replies account for every counter and for every record. -/
theorem accounts_ofCommands (commands : List Command) : (ofCommands commands).Accounts := by
  have h := Sound.ofCommands commands
  generalize ofCommands commands = b at h
  refine ⟨h.created, ?_, ?_, ?_, ?_, h.recorded, h.wellFormed.numbered⟩
  · intro key u before c after counted split
    obtain ⟨named, total, used⟩ := h.counted key u before c after counted split
    obtain ⟨-, nonneg, bound⟩ := h.wellFormed.bounds key u counted
    exact ⟨named, total, nonneg, bound, used⟩
  · intro coupon userId productId time r after success
    obtain ⟨of, -, -, -, key, u, named, counted, left, rfl⟩ := Ledger.redeem_eq_ok success
    obtain ⟨id, scope⟩ := Ledger.key_of_counterKey named
    obtain ⟨d, known, kind⟩ := h.wellFormed.counter_live key u counted
    obtain ⟨stored, found, rfl⟩ := Option.map_eq_some_iff.1 known
    refine ⟨stored, key, u, id ▸ found, ?_, kind.trans scope, Ledger.counterKey_eq_ok_iff.1 named, counted,
      left, of, ?_⟩
    · exact (h.wellFormed.own known).trans id
    · intro other
      rw [Ledger.counter?_addRedemption, Ledger.counter?_setUsage counted]
      rfl
  · intro coupon userId productId time deleted
    cases result : b.ledger.redeem coupon userId productId time with
    | mk answer after =>
      cases answer with
      | error e => exact ⟨e, rfl⟩
      | ok r =>
        obtain ⟨-, -, -, -, key, u, named, counted, -⟩ := Ledger.redeem_eq_ok result
        rw [h.counter?_of_deletion ((Ledger.key_of_counterKey named).1 ▸ deleted)] at counted
        cases counted
  · intro coupon other userId productId time id scope
    simp only [Ledger.redeem, Ledger.nextRecord, id, scope]

end Book

end Couponry
