import Couponry.Proofs.Coupon.Check
import Couponry.Proofs.Ledger.Continuation
import Couponry.Proofs.Ledger.Spared

/-!
# What never changes

Redemptions are only ever added, ids are never given out again, and of a coupon that is there only the
counter moves, and only up. `permanent_ofCommands` says so of any two points of a run, with what
follows for whoever is refused a coupon, and for the records of redemptions.
-/

namespace Couponry

open Ledger (CounterKey perform)

/-- Coupons of one definition are looked at in the same way. -/
theorem EligibilityRequest.counterKey?_congr (request : EligibilityRequest) {c c' : Coupon}
    (same : c'.definition = c.definition) : request.counterKey? c' = request.counterKey? c := by
  have scope : c'.scope = c.scope := show c'.definition.scope = c.definition.scope by rw [same]
  have id : c'.id = c.id := show c'.definition.id = c.definition.id by rw [same]
  rw [counterKey?, scope, id, counterKey?]

namespace Book

open Ledger (Command)

/-- What two points of a run have in common: `b` is the earlier one. -/
structure Permanent (b b' : Book) : Prop where
  history : b.history <+: b'.history
  redemptions : b.ledger.redemptions <+: b'.ledger.redemptions
  /-- No id is given out twice. -/
  issued : (issuedIds b'.history).Nodup
  /-- A coupon that is there at both points is the same coupon, with the same counters: those of the
  same subjects, with the same totals and no use less. -/
  live : ∀ id c c', b.ledger.coupons.get? id = some c → b'.ledger.coupons.get? id = some c' →
    c'.definition = c.definition ∧ ∀ key, key.couponId = id →
      Option.Rel Usage.Later (b.ledger.counter? key) (b'.ledger.counter? key)
  /-- Who is refused a coupon is refused it for as long as it is there. -/
  refused : ∀ host host' code request now c c' view, b.ledger.getByCode code = .ok c →
    b'.ledger.coupons.get? c.id = some c' →
    (perform host (Eligibility.check code request now) b.ledger).1 = .ok view →
    view.canUse = false →
    b'.ledger.getByCode code = .ok c' ∧
      ∃ view', (perform host' (Eligibility.check code request now) b'.ledger).1 = .ok view' ∧
        view'.canUse = false
  /-- A redemption is on record for the coupon that was redeemed, which had been created before and was
  not deleted: what is stored by this id is that coupon, and no coupon created since has this id. -/
  redeemed : ∀ before coupon r after, b.history = before ++ .redemption coupon r :: after →
    r ∈ b'.ledger.redemptions ∧ r.couponId = coupon.id ∧ .deletion r.couponId ∉ before ∧
      (∃ c, .creation c r.couponId ∈ before ∧ ∀ stored,
        b'.ledger.coupons.get? r.couponId = some stored →
          stored.definition = (c.stored r.couponId).definition) ∧
      ∃ rest, b'.history = before ++ .redemption coupon r :: rest ∧
        ∀ other id, .creation other id ∈ rest → id ≠ r.couponId

variable {b b' : Book}

/-! ## Ids -/

theorem Dated.nodup_issuedIds (h : b.Dated) : (issuedIds b.history).Nodup :=
  h.ascending.imp fun less same => by
    rw [same] at less
    exact absurd less (Int.lt_irrefl _)

/-- What is created later gets another id. -/
theorem Dated.ne_of_later (h : b.Dated) {before after : List Reply} {c other : NewCoupon}
    {id k : CouponId} (split : b.history = before ++ after) (first : .creation c id ∈ before)
    (second : .creation other k ∈ after) : k ≠ id := by
  have ascending := h.ascending
  rw [split, issuedIds, List.filterMap_append, List.pairwise_append] at ascending
  have less := ascending.2.2 id (mem_issuedIds.2 ⟨c, first⟩) k (mem_issuedIds.2 ⟨other, second⟩)
  rintro rfl
  exact absurd less (Int.lt_irrefl _)

/-- An id stands for one coupon. -/
theorem Dated.creation_unique (h : b.Dated) {c other : NewCoupon} {id : CouponId}
    (first : .creation c id ∈ b.history) (second : .creation other id ∈ b.history) : other = c := by
  obtain ⟨before, after, split⟩ := List.append_of_mem first
  rw [split] at second
  have split' : b.history = (before ++ [.creation c id]) ++ after := by simp [split]
  rcases List.mem_append.1 second with early | late
  · exact absurd rfl (h.ne_of_later split early List.mem_cons_self)
  · rcases List.mem_cons.1 late with same | late
    · exact (Reply.creation_inj same).1
    · exact absurd rfl (h.ne_of_later split' (List.mem_append_right _ List.mem_cons_self) late)

/-! ## Coupons -/

section Leads

variable (leads : b.Leads b') (known : b.Known) (known' : b'.Known)
include leads known

/-- What is stored under an old id is the old coupon. -/
theorem Leads.definition {id : CouponId} {c c' : Coupon} (stored : b.ledger.coupons.get? id = some c)
    (stored' : b'.ledger.coupons.get? id = some c') : c'.definition = c.definition := by
  have alive := Ledger.definition?_of_stored stored
  have alive' := Ledger.definition?_of_stored stored'
  have old := (known.sound.wellFormed.issued id _ alive).2
  exact (Option.some.inj (alive.symm.trans (leads.ledger.definition id _ old alive'))).symm

include known'

/-- The counters of an old coupon are the old counters. -/
theorem Leads.counter {key : CounterKey} {d d' : Coupon}
    (alive : b.ledger.definition? key.couponId = some d)
    (alive' : b'.ledger.definition? key.couponId = some d') :
    Option.Rel Usage.Later (b.ledger.counter? key) (b'.ledger.counter? key) := by
  have old := (known.sound.wellFormed.issued _ d alive).2
  cases counted' : b'.ledger.counter? key with
  | some u' =>
    obtain ⟨u, counted, later⟩ := leads.ledger.counter key u' old counted'
    rw [counted]
    exact .some later
  | none =>
    cases counted : b.ledger.counter? key with
    | none => exact .none
    | some u =>
      -- the counter that the coupon has now is the one that it had
      obtain ⟨other, u', of, counted''⟩ := known'.sound.wellFormed.counter_exists _ d' alive'
      obtain ⟨v, earlier, -⟩ := leads.ledger.counter other u' (of ▸ old) counted''
      cases known.sound.wellFormed.counter_unique key other u v counted earlier of.symm
      cases counted'.symm.trans counted''

/-- Out of its window a coupon stays so at the same instant, and used up for good. -/
theorem Leads.refused {host host' : HostAnswers} {code : String} {request : EligibilityRequest}
    {now : Instant} {c c' : Coupon} {view : CouponView} (found : b.ledger.getByCode code = .ok c)
    (stored' : b'.ledger.coupons.get? c.id = some c')
    (shown : (perform host (Eligibility.check code request now) b.ledger).1 = .ok view)
    (refused : view.canUse = false) :
    b'.ledger.getByCode code = .ok c' ∧
      ∃ view', (perform host' (Eligibility.check code request now) b'.ledger).1 = .ok view' ∧
        view'.canUse = false := by
  obtain ⟨stored, named⟩ := known.sound.wellFormed.stored_of_getByCode found
  have same := leads.definition known stored stored'
  have alive := Ledger.definition?_of_stored stored
  have alive' := Ledger.definition?_of_stored stored'
  have own : c'.id = c.id := show c'.definition.id = c.definition.id by rw [same]
  have found' : b'.ledger.getByCode code = .ok c' := by
    obtain ⟨other, found', again, -⟩ := known'.sound.wellFormed.getByCode_of_definition alive'
    cases stored'.symm.trans again
    have code' : c'.definition.code = code := (congrArg Coupon.code same).trans named
    rwa [code'] at found'
  refine ⟨found', ?_⟩
  rw [Ledger.check_of_found host found] at shown
  rw [Ledger.check_of_found host' found',
    Ledger.checkFound_refuses_iff host' (own.symm ▸ stored')]
  obtain ⟨enforced, why⟩ :=
    (Ledger.checkFound_refuses_iff host stored).1 ⟨view, shown, refused⟩
  refine ⟨enforced, ?_⟩
  rw [Coupon.isActiveAt_congr same, request.counterKey?_congr same]
  rcases why with inactive | ⟨key, u, asked, counted, exhausted⟩
  · exact .inl inactive
  · right
    have of : key.couponId = c.id := EligibilityRequest.couponId_of_counterKey? asked
    have kept := leads.counter known known' (of ▸ alive) (of ▸ alive')
    rw [counted] at kept
    cases counted' : b'.ledger.counter? key with
    | none =>
      rw [counted'] at kept
      cases kept
    | some u' =>
      rw [counted'] at kept
      cases kept with
      | some later => exact ⟨key, u', asked, counted', later.isExhausted exhausted⟩

end Leads

/-- **What never changes**, from any point of a run to any later one. -/
theorem permanent_ofCommands (earlier later : List Command) :
    (ofCommands earlier).Permanent (ofCommands (earlier ++ later)) := by
  have leads := leads_ofCommands earlier later
  have known := Known.ofCommands earlier
  have known' := Known.ofCommands (earlier ++ later)
  generalize ofCommands earlier = b, ofCommands (earlier ++ later) = b' at leads known known'
  refine ⟨leads.history, leads.ledger.redemptions, known'.dated.nodup_issuedIds, ?_, ?_, ?_⟩
  · intro id c c' stored stored'
    refine ⟨leads.definition known stored stored', ?_⟩
    rintro key rfl
    exact leads.counter known known' (Ledger.definition?_of_stored stored)
      (Ledger.definition?_of_stored stored')
  · intro host host' code request now c c' view found stored' shown refused
    exact leads.refused known known' found stored' shown refused
  · intro before coupon r after split
    obtain ⟨of, undeleted, c, created⟩ := known.dated.redeemed before coupon r after split
    obtain ⟨new, longer⟩ := leads.history
    have split' : b'.history = before ++ .redemption coupon r :: (after ++ new) := by
      rw [← longer, split, List.append_assoc, List.cons_append]
    refine ⟨?_, of, undeleted, ⟨c, created, ?_⟩, after ++ new, split', ?_⟩
    · rw [known'.sound.recorded, split']
      refine List.mem_filterMap.2 ⟨_, ?_, Reply.record?_redemption of⟩
      simp
    · intro stored alive
      obtain ⟨other, made, same⟩ := known'.dated.made _ _ (Ledger.definition?_of_stored alive)
      have first : .creation c r.couponId ∈ b'.history := by
        rw [split']
        exact List.mem_append_left _ created
      rw [same, known'.dated.creation_unique first made]
    · intro other id made
      exact known'.dated.ne_of_later split' created (List.mem_cons_of_mem _ made)

end Book

end Couponry
