import Couponry.Proofs.Ledger.Accounting
import Couponry.Proofs.Ledger.Later

/-!
# Ledgers that go on

`Continues` relates a ledger to any ledger that it leads to: what is left of the old coupons is as it
was, but for uses that were taken since. `Dated` is the same for a book, whose history tells in
addition which creation an id comes from: ids are given out in order, so that no id is given out
twice, and a redemption comes after the one creation of its coupon.
-/

namespace Couponry

/-- What a counter may have come to: uses have been taken, of the same total. -/
structure Usage.Later (u u' : Usage) : Prop where
  total : u'.total = u.total
  used : u.used ≤ u'.used

namespace Usage.Later

theorem refl (u : Usage) : Later u u :=
  ⟨rfl, Int.le_refl _⟩

theorem trans {u v w : Usage} (first : Later u v) (second : Later v w) : Later u w :=
  ⟨second.total.trans first.total, Int.le_trans first.used second.used⟩

theorem bump (u : Usage) : Later u u.bump := by
  constructor
  · rfl
  · show u.used ≤ u.used + 1
    omega

/-- What is used up stays so. -/
theorem isExhausted {u u' : Usage} (later : Later u u') (exhausted : u.isExhausted = true) :
    u'.isExhausted = true := by
  have bound : u.total ≤ u.used := by simpa [Usage.isExhausted] using exhausted
  have used := later.used
  simp only [Usage.isExhausted, later.total, decide_eq_true_eq]
  omega

end Usage.Later

namespace Ledger

/-- `l'` has come of `l`: it is later, and its old counters have counted on. -/
structure Continues (l l' : Ledger) : Prop extends Later l l' where
  counter : ∀ key u', key.couponId.value ≤ l.lastCouponId → l'.counter? key = some u' →
    ∃ u, l.counter? key = some u ∧ u.Later u'

namespace Continues

variable {l l' l'' : Ledger}

theorem refl (l : Ledger) : Continues l l where
  toLater := .refl l
  counter _ u' _ counted := ⟨u', counted, .refl u'⟩

theorem trans (first : Continues l l') (second : Continues l' l'') : Continues l l'' where
  last := Int.le_trans first.last second.last
  definition id d old stored :=
    first.definition id d old (second.definition id d (Int.le_trans old first.last) stored)
  redemptions := first.redemptions.trans second.redemptions
  counter key u'' old counted := by
    obtain ⟨u', counted, later'⟩ := second.counter key u'' (Int.le_trans old first.last) counted
    obtain ⟨u, counted, later⟩ := first.counter key u' old counted
    exact ⟨u, counted, later.trans later'⟩

/-- A call takes no use back. -/
theorem effect (h : l.WellFormed) {reply : Reply} (e : Effect l reply l') : Continues l l' := by
  refine ⟨.effect e, fun key u' old counted => ?_⟩
  cases e with
  | nothing => exact ⟨u', counted, .refl u'⟩
  | created c sound free =>
    rw [counter?_addCoupon c h.counter?_next, if_neg] at counted
    · exact ⟨u', counted, .refl u'⟩
    · rintro rfl
      rw [couponId_scopeKey] at old
      simp only [nextCouponId] at old
      omega
  | deleted id c stored =>
    rw [counter?_removeCoupon] at counted
    split at counted
    · cases counted
    · exact ⟨u', counted, .refl u'⟩
  | inserted r next =>
    rw [counter?_addRedemption] at counted
    exact ⟨u', counted, .refl u'⟩
  | redeemed coupon r moved u next of on named counted' left =>
    rw [counter?_addRedemption, counter?_setUsage counted'] at counted
    split at counted
    · next same =>
      subst same
      cases counted
      exact ⟨u, counted', .bump u⟩
    · exact ⟨u', counted, .refl u'⟩

/-- The switch changes nothing that is kept. -/
theorem switch (l : Ledger) (fail : Bool) : Continues l { l with failOnRedeem := fail } where
  toLater := ⟨Int.le_refl _, fun _ _ _ => id, List.prefix_refl _⟩
  counter _ u' _ counted := ⟨u', counted, .refl u'⟩

end Continues

end Ledger

/-! ## Histories -/

/-- The id that a creation gave out. -/
def Reply.issued? : Reply → Option CouponId
  | ⟨.createCoupon _, .ok id⟩ => some id
  | _ => none

theorem Reply.issued?_eq_some_iff {reply : Reply} {id : CouponId} :
    reply.issued? = some id ↔ ∃ c, reply = creation c id := by
  constructor
  · intro issued
    obtain ⟨call, answer⟩ := reply
    cases call <;> cases answer <;> cases issued
    exact ⟨_, rfl⟩
  · rintro ⟨c, rfl⟩
    rfl

theorem Reply.redemption_inj {coupon other : Coupon} {r r' : RedemptionRecord}
    (same : redemption coupon r = redemption other r') : coupon = other ∧ r = r' := by
  injection same with call answer
  injection call with handed
  exact ⟨handed, Except.ok.inj answer⟩

namespace Book

open Ledger (Command Continues Effect)

/-- The ids that replies tell of, in the order in which they were given out. -/
def issuedIds (replies : List Reply) : List CouponId :=
  replies.filterMap Reply.issued?

theorem mem_issuedIds {replies : List Reply} {id : CouponId} :
    id ∈ issuedIds replies ↔ ∃ c, .creation c id ∈ replies := by
  constructor
  · intro issued
    obtain ⟨reply, made, creation⟩ := List.mem_filterMap.1 issued
    obtain ⟨c, rfl⟩ := Reply.issued?_eq_some_iff.1 creation
    exact ⟨c, made⟩
  · rintro ⟨c, made⟩
    exact List.mem_filterMap.2 ⟨_, made, rfl⟩

/-- The history tells where every coupon and every redemption comes from. -/
structure Dated (b : Book) : Prop where
  /-- Ids are given out in order. -/
  ascending : (issuedIds b.history).Pairwise fun id other => id.value < other.value
  /-- A stored coupon is as it was created. -/
  made : ∀ id d, b.ledger.definition? id = some d →
    ∃ c, .creation c id ∈ b.history ∧ d = (c.stored id).definition
  /-- What was redeemed had been created, and had not been deleted. -/
  redeemed : ∀ before coupon r after, b.history = before ++ .redemption coupon r :: after →
    r.couponId = coupon.id ∧ .deletion r.couponId ∉ before ∧ ∃ c, .creation c r.couponId ∈ before

namespace Dated

theorem blank : blank.Dated where
  ascending := .nil
  made _ _ stored := by simp [Book.blank, Ledger.empty, Ledger.definition?] at stored
  redeemed before coupon r after split := by
    cases before <;> cases split

variable {b : Book}

theorem made_concat (h : b.Dated) (reply : Reply) {id : CouponId} {d : Coupon}
    (stored : b.ledger.definition? id = some d) :
    ∃ c, .creation c id ∈ b.history ++ [reply] ∧ d = (c.stored id).definition := by
  obtain ⟨c, made, same⟩ := h.made id d stored
  exact ⟨c, List.mem_append_left _ made, same⟩

/-- After a reply that gave no id out, the ids are in order. -/
theorem ascending_concat (h : b.Dated) {reply : Reply} (other : reply.issued? = none) :
    (issuedIds (b.history ++ [reply])).Pairwise fun id other => id.value < other.value := by
  rw [issuedIds, List.filterMap_append, List.filterMap_cons_none other, List.filterMap_nil,
    List.append_nil]
  exact h.ascending

/-- After a reply that is no redemption, what was redeemed is as it was. -/
theorem redeemed_concat (h : b.Dated) {reply : Reply} (other : ∀ coupon r, .redemption coupon r ≠ reply)
    {before after : List Reply} {coupon : Coupon} {r : RedemptionRecord}
    (split : b.history ++ [reply] = before ++ .redemption coupon r :: after) :
    r.couponId = coupon.id ∧ .deletion r.couponId ∉ before ∧ ∃ c, .creation c r.couponId ∈ before := by
  rcases concat_eq_append_cons split with ⟨-, last⟩ | ⟨rest, rfl, earlier⟩
  · exact absurd last (other coupon r)
  · exact h.redeemed before coupon r rest earlier

theorem addCoupon (h : b.Dated) (sound : b.Sound) (c : NewCoupon) :
    Dated ⟨b.ledger.addCoupon c, b.history ++ [.creation c b.ledger.nextCouponId]⟩ where
  ascending := by
    have last : issuedIds (b.history ++ [.creation c b.ledger.nextCouponId]) =
        issuedIds b.history ++ [b.ledger.nextCouponId] := by
      rw [issuedIds, List.filterMap_append]
      rfl
    rw [last, List.pairwise_append]
    refine ⟨h.ascending, List.pairwise_singleton _ _, fun id old next new => ?_⟩
    obtain ⟨c', made⟩ := mem_issuedIds.1 old
    have bound := sound.issued c' id made
    rw [List.mem_singleton.1 new]
    simp only [Ledger.nextCouponId]
    omega
  made id d stored := by
    rw [Ledger.definition?_addCoupon] at stored
    split at stored
    · next new =>
      cases stored
      subst new
      exact ⟨c, by simp, rfl⟩
    · exact h.made_concat _ stored
  redeemed before coupon r after split := h.redeemed_concat (by rintro _ _ ⟨⟩) split

theorem redeem (h : b.Dated) (sound : b.Sound) {coupon : Coupon} {r : RedemptionRecord}
    {key : Ledger.CounterKey} {u : Usage} (of : r.couponId = coupon.id)
    (named : Ledger.counterKey coupon.scope coupon.id r.userId r.productId = .ok key)
    (counted : b.ledger.counter? key = some u) :
    Dated ⟨(b.ledger.setUsage key u.bump r.redeemedAt).addRedemption r,
      b.history ++ [.redemption coupon r]⟩ where
  ascending := h.ascending_concat rfl
  made id d stored := by
    rw [Ledger.definition?_addRedemption, Ledger.definition?_setUsage] at stored
    exact h.made_concat _ stored
  redeemed before coupon' r' after split := by
    rcases concat_eq_append_cons split with ⟨rfl, last⟩ | ⟨rest, rfl, earlier⟩
    · obtain ⟨same, same'⟩ := Reply.redemption_inj last
      subst same same'
      obtain ⟨same, -⟩ := List.append_inj' split rfl
      subst same
      have id : key.couponId = r'.couponId := (Ledger.key_of_counterKey named).1.trans of.symm
      refine ⟨of, ?_, ?_⟩
      · intro deleted
        rw [← id] at deleted
        rw [sound.counter?_of_deletion deleted] at counted
        cases counted
      · obtain ⟨first, c, rest, split⟩ := sound.created key u counted
        rw [id] at split
        exact ⟨c, by rw [split]; simp⟩
    · exact h.redeemed before coupon' r' rest earlier

/-- A call preserves the dates. -/
theorem effect (h : b.Dated) (sound : b.Sound) {reply : Reply} {l : Ledger}
    (e : Effect b.ledger reply l) : Dated ⟨l, b.history ++ [reply]⟩ := by
  cases e with
  | nothing _ quiet =>
    have issued : reply.issued? = none := by
      cases issued : reply.issued? with
      | none => rfl
      | some id =>
        obtain ⟨c, rfl⟩ := Reply.issued?_eq_some_iff.1 issued
        cases quiet
    refine ⟨h.ascending_concat issued, fun id d => h.made_concat reply, ?_⟩
    intro before coupon r after
    refine h.redeemed_concat ?_
    rintro coupon r rfl
    cases quiet
  | created c => exact h.addCoupon sound c
  | deleted id c stored =>
    refine ⟨h.ascending_concat rfl, fun k d alive => ?_, fun before coupon r after =>
      h.redeemed_concat (by rintro _ _ ⟨⟩)⟩
    rw [Ledger.definition?_removeCoupon] at alive
    split at alive
    · cases alive
    · exact h.made_concat _ alive
  | inserted r =>
    refine ⟨h.ascending_concat rfl, fun k d alive => ?_, fun before coupon r after =>
      h.redeemed_concat (by rintro _ _ ⟨⟩)⟩
    rw [Ledger.definition?_addRedemption] at alive
    exact h.made_concat _ alive
  | redeemed coupon r key u _ of _ named counted => exact h.redeem sound of named counted

end Dated

/-! ## Runs -/

/-- `b'` has come of `b`. -/
structure Leads (b b' : Book) : Prop where
  ledger : Continues b.ledger b'.ledger
  history : b.history <+: b'.history

/-- What is known of a book at any time. -/
structure Known (b : Book) : Prop where
  sound : b.Sound
  dated : b.Dated

theorem Known.exec {b : Book} (h : b.Known) (command : Command) : (b.exec command).Known := by
  refine ⟨h.sound.exec command, ?_⟩
  cases command with
  | call c => exact h.dated.effect h.sound (Ledger.effect_answer b.ledger c)
  | failOnRedeem fail => exact ⟨h.dated.ascending, h.dated.made, h.dated.redeemed⟩

theorem Leads.exec {b : Book} (h : b.Sound) (command : Command) : b.Leads (b.exec command) := by
  cases command with
  | call c =>
    exact ⟨.effect h.wellFormed (Ledger.effect_answer b.ledger c), List.prefix_append _ _⟩
  | failOnRedeem fail => exact ⟨.switch b.ledger fail, List.prefix_refl _⟩

/-- A book after more commands. -/
theorem known_leads (commands : List Command) {b : Book} (h : b.Known) :
    (commands.foldl Book.exec b).Known ∧ b.Leads (commands.foldl Book.exec b) := by
  induction commands generalizing b with
  | nil => exact ⟨h, .refl b.ledger, List.prefix_refl _⟩
  | cons command commands ih =>
    have first := Leads.exec h.sound command
    obtain ⟨known, rest⟩ := ih (h.exec command)
    exact ⟨known, first.ledger.trans rest.ledger, first.history.trans rest.history⟩

theorem Known.ofCommands (commands : List Command) : (Book.ofCommands commands).Known :=
  (known_leads commands ⟨.blank, .blank⟩).1

/-- More commands lead on from what commands led to. -/
theorem leads_ofCommands (earlier later : List Command) :
    (Book.ofCommands earlier).Leads (Book.ofCommands (earlier ++ later)) := by
  rw [Book.ofCommands, Book.ofCommands, List.foldl_append]
  exact (known_leads later (Known.ofCommands earlier)).2

end Book

end Couponry
