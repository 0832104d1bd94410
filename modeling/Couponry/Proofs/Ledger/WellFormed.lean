import Couponry.Proofs.Coupon.Valid
import Couponry.Proofs.Ledger.Effect

/-!
# Well-formed ledgers

What holds of every ledger that calls lead to: codes and coupons are inverse to each other, every
coupon is as it was asked for and has exactly one counter, which is of its scope and within its
bounds, and redemptions are numbered from one. The invariant speaks of a ledger through its two views,
`definition?` and `counter?`, so each case of `Effect` needs only the equations of these two.
-/

namespace Couponry

namespace Ledger

/-- What holds of every reachable ledger. -/
structure WellFormed (l : Ledger) : Prop where
  codes : ∀ code id, l.codes.get? code = some id ↔ ∃ d, l.definition? id = some d ∧ d.code = code
  made : ∀ id d, l.definition? id = some d → ∃ c : NewCoupon, c.fault? = none ∧
    d = (c.stored id).definition
  last : 0 ≤ l.lastCouponId
  issued : ∀ id d, l.definition? id = some d → 1 ≤ id.value ∧ id.value ≤ l.lastCouponId
  counter_live : ∀ key u, l.counter? key = some u →
    ∃ d, l.definition? key.couponId = some d ∧ d.scope = key.scope
  counter_exists : ∀ id d, l.definition? id = some d → ∃ key u, key.couponId = id ∧
    l.counter? key = some u
  counter_unique : ∀ key other u v, l.counter? key = some u → l.counter? other = some v →
    key.couponId = other.couponId → key = other
  bounds : ∀ key u, l.counter? key = some u → 0 < u.total ∧ 0 ≤ u.used ∧ u.used ≤ u.total
  lastRedemption : l.lastRedemptionId = l.redemptions.length
  numbered : l.redemptions.map RedemptionRecord.id =
    (List.range l.redemptions.length).map fun i : Nat => (i : Int) + 1

namespace WellFormed

variable {l : Ledger}

theorem empty : WellFormed .empty where
  codes _ _ := by simp [Ledger.empty, definition?]
  made _ _ h := by simp [Ledger.empty, definition?] at h
  last := Int.le_refl 0
  issued _ _ h := by simp [Ledger.empty, definition?] at h
  counter_live key u h := by cases key <;> simp [Ledger.empty, counter?] at h
  counter_exists _ _ h := by simp [Ledger.empty, definition?] at h
  counter_unique key _ _ _ h := by cases key <;> simp [Ledger.empty, counter?] at h
  bounds key u h := by cases key <;> simp [Ledger.empty, counter?] at h
  lastRedemption := rfl
  numbered := rfl

/-- A coupon is stored under its own id. -/
theorem own (h : l.WellFormed) {id : CouponId} {d : Coupon} (stored : l.definition? id = some d) :
    d.id = id := by
  obtain ⟨c, -, rfl⟩ := h.made id d stored
  rfl

/-- The next id is nobody's yet. -/
theorem definition?_next (h : l.WellFormed) : l.definition? l.nextCouponId = none := by
  cases stored : l.definition? l.nextCouponId with
  | none => rfl
  | some d =>
    have := (h.issued _ d stored).2
    simp only [nextCouponId] at this
    omega

theorem counter?_next (h : l.WellFormed) (key : CounterKey) (next : key.couponId = l.nextCouponId) :
    l.counter? key = none := by
  cases counted : l.counter? key with
  | none => rfl
  | some u =>
    obtain ⟨d, stored, -⟩ := h.counter_live key u counted
    rw [next, h.definition?_next] at stored
    cases stored

/-- A live counter is older than the id that is given out next. -/
theorem couponId_ne_next (h : l.WellFormed) {key : CounterKey} {u : Usage}
    (counted : l.counter? key = some u) : key.couponId ≠ l.nextCouponId := by
  intro next
  rw [h.counter?_next key next] at counted
  cases counted

/-- A stored coupon is older than the id that is given out next. -/
theorem ne_next (h : l.WellFormed) {id : CouponId} {d : Coupon} (stored : l.definition? id = some d) :
    id ≠ l.nextCouponId := by
  rintro rfl
  rw [h.definition?_next] at stored
  cases stored

/-- No code leads to the id that is given out next. -/
theorem codes_ne_next (h : l.WellFormed) (code : String) : l.codes.get? code ≠ some l.nextCouponId := by
  intro known
  obtain ⟨d, stored, -⟩ := (h.codes code _).1 known
  exact h.ne_next stored rfl

/-- A code leads to a coupon that is stored under its own id. -/
theorem stored_of_getByCode (h : l.WellFormed) {code : String} {c : Coupon}
    (found : l.getByCode code = .ok c) : l.coupons.get? c.id = some c ∧ c.code = code := by
  unfold getByCode at found
  split at found
  · next c' known =>
    cases found
    obtain ⟨id, named, stored⟩ := Option.bind_eq_some_iff.1 known
    have alive : l.definition? id = some c.definition := by simp [definition?, stored]
    have own : c.definition.id = id := h.own alive
    obtain ⟨d, alive', code'⟩ := (h.codes code id).1 named
    cases alive.symm.trans alive'
    exact ⟨own ▸ stored, code'⟩
  · cases found

/-! ## The five cases -/

/-- The codes after a coupon was added under a free one. -/
theorem codes_added (h : l.WellFormed) {c : NewCoupon} (free : l.codes.get? c.code = none)
    (code : String) (id : CouponId) : (l.addCoupon c).codes.get? code = some id ↔
      ∃ d, (l.addCoupon c).definition? id = some d ∧ d.code = code := by
  rw [codes_addCoupon, Table.get?_insert, definition?_addCoupon]
  by_cases new : id = l.nextCouponId
  · subst new
    by_cases same : code = c.code
    · simp [same, Coupon.definition, NewCoupon.stored]
    · simp only [if_neg same, if_true, h.codes_ne_next code, false_iff]
      rintro ⟨d, made, named⟩
      cases made
      exact same named.symm
  · rw [if_neg new, ← h.codes code id]
    by_cases same : code = c.code
    · subst same
      simp [free, Ne.symm new]
    · rw [if_neg same]

/-- A counter that was added is the only one of its coupon. -/
theorem counter_unique_added (h : l.WellFormed) (c : NewCoupon) {key other : CounterKey} {u v : Usage}
    (counted : (l.addCoupon c).counter? key = some u)
    (counted' : (l.addCoupon c).counter? other = some v) (same : key.couponId = other.couponId) :
    key = other := by
  rw [counter?_addCoupon c h.counter?_next] at counted counted'
  split at counted
  · next new =>
    split at counted'
    · next new' => rw [new, new']
    · rw [new, couponId_scopeKey] at same
      exact absurd same.symm (h.couponId_ne_next counted')
  · split at counted'
    · next new' =>
      rw [new', couponId_scopeKey] at same
      exact absurd same (h.couponId_ne_next counted)
    · exact h.counter_unique key other u v counted counted' same

theorem addCoupon (h : l.WellFormed) {c : NewCoupon} (sound : c.fault? = none)
    (free : l.codes.get? c.code = none) : (l.addCoupon c).WellFormed where
  codes code id := h.codes_added free code id
  made id d := by
    rw [definition?_addCoupon]
    split
    · next new =>
      rintro ⟨⟩
      exact ⟨c, sound, by rw [new]⟩
    · exact h.made id d
  last := by
    have := h.last
    rw [lastCouponId_addCoupon]
    omega
  issued id d := by
    have := h.last
    rw [definition?_addCoupon, lastCouponId_addCoupon]
    split
    · next new =>
      subst new
      rintro -
      simp only [nextCouponId]
      omega
    · intro stored
      have := h.issued id d stored
      omega
  counter_live key u := by
    rw [counter?_addCoupon c h.counter?_next]
    split
    · next new =>
      rintro -
      subst new
      rw [couponId_scopeKey, scope_scopeKey, definition?_addCoupon, if_pos rfl]
      exact ⟨_, rfl, rfl⟩
    · intro counted
      obtain ⟨d, stored, scope⟩ := h.counter_live key u counted
      refine ⟨d, ?_, scope⟩
      rw [definition?_addCoupon, if_neg (h.ne_next stored), stored]
  counter_exists id d := by
    rw [definition?_addCoupon]
    split
    · next new =>
      rintro -
      exact ⟨c.scope.counterKey l.nextCouponId, .fresh c.total, by simp [new],
        by rw [counter?_addCoupon c h.counter?_next, if_pos rfl]⟩
    · intro stored
      obtain ⟨key, u, of, counted⟩ := h.counter_exists id d stored
      refine ⟨key, u, of, ?_⟩
      rw [counter?_addCoupon c h.counter?_next, if_neg, counted]
      rintro rfl
      exact h.couponId_ne_next counted (couponId_scopeKey _ _)
  counter_unique key other u v := h.counter_unique_added c
  bounds key u := by
    rw [counter?_addCoupon c h.counter?_next]
    split
    · rintro ⟨⟩
      have := (NewCoupon.valid_of_sound sound).total
      exact ⟨this, Int.le_refl 0, by simp only [Usage.fresh]; omega⟩
    · exact h.bounds key u
  lastRedemption := by simp [h.lastRedemption]
  numbered := by simpa using h.numbered

theorem removeCoupon (h : l.WellFormed) {id : CouponId} {c : Coupon}
    (stored : l.coupons.get? id = some c) : (l.removeCoupon id c).WellFormed where
  codes code k := by
    have known : l.codes.get? c.code = some id :=
      (h.codes _ _).2 ⟨c.definition, by simp [definition?, stored], rfl⟩
    rw [definition?_removeCoupon]
    show (l.codes.erase c.code).get? code = some k ↔ _
    rw [Table.get?_erase]
    by_cases same : code = c.code
    · subst same
      by_cases gone : k = id
      · simp [gone]
      · rw [if_pos rfl, if_neg gone, ← h.codes c.code k, known]
        simp [Ne.symm gone]
    · rw [if_neg same]
      by_cases gone : k = id
      · subst gone
        rw [if_pos rfl, h.codes]
        simp [definition?, stored, Coupon.definition, Ne.symm same]
      · rw [if_neg gone, h.codes]
  made k d := by
    rw [definition?_removeCoupon]
    split
    · rintro ⟨⟩
    · exact h.made k d
  last := h.last
  issued k d := by
    rw [definition?_removeCoupon]
    split
    · rintro ⟨⟩
    · exact h.issued k d
  counter_live key u := by
    rw [counter?_removeCoupon, definition?_removeCoupon]
    split
    · rintro ⟨⟩
    · exact h.counter_live key u
  counter_exists k d := by
    rw [definition?_removeCoupon]
    split
    · rintro ⟨⟩
    · next left =>
      intro alive
      obtain ⟨key, u, of, counted⟩ := h.counter_exists k d alive
      exact ⟨key, u, of, by rw [counter?_removeCoupon, of, if_neg left, counted]⟩
  counter_unique key other u v := by
    rw [counter?_removeCoupon, counter?_removeCoupon]
    split
    · rintro ⟨⟩
    · split
      · rintro - ⟨⟩
      · exact h.counter_unique key other u v
  bounds key u := by
    rw [counter?_removeCoupon]
    split
    · rintro ⟨⟩
    · exact h.bounds key u
  lastRedemption := h.lastRedemption
  numbered := h.numbered

theorem setUsage (h : l.WellFormed) {key : CounterKey} {u : Usage} (counted : l.counter? key = some u)
    (left : u.used < u.total) (time : Instant) : (l.setUsage key u.bump time).WellFormed where
  codes code id := by rw [codes_setUsage, definition?_setUsage, h.codes]
  made id d := by rw [definition?_setUsage]; exact h.made id d
  last := by rw [lastCouponId_setUsage]; exact h.last
  issued id d := by rw [definition?_setUsage, lastCouponId_setUsage]; exact h.issued id d
  counter_live k v := by
    rw [counter?_setUsage counted, definition?_setUsage]
    split
    · next same => subst same; exact fun _ => h.counter_live k u counted
    · exact h.counter_live k v
  counter_exists id d := by
    rw [definition?_setUsage]
    intro stored
    obtain ⟨k, v, of, old⟩ := h.counter_exists id d stored
    by_cases same : k = key
    · exact ⟨k, u.bump, of, by rw [counter?_setUsage counted, if_pos same]⟩
    · exact ⟨k, v, of, by rw [counter?_setUsage counted, if_neg same, old]⟩
  counter_unique k other v w := by
    have isSome : ∀ {k v}, (l.setUsage key u.bump time).counter? k = some v →
        ∃ v, l.counter? k = some v := fun {k v} => by
      rw [counter?_setUsage counted]
      split
      · next same => subst same; exact fun _ => ⟨u, counted⟩
      · exact fun old => ⟨v, old⟩
    intro first second
    obtain ⟨v, first⟩ := isSome first
    obtain ⟨w, second⟩ := isSome second
    exact h.counter_unique k other v w first second
  bounds k v := by
    rw [counter?_setUsage counted]
    split
    · rintro ⟨⟩
      have := h.bounds key u counted
      simp only [Usage.bump]
      omega
    · exact h.bounds k v
  lastRedemption := by rw [lastRedemptionId_setUsage, redemptions_setUsage]; exact h.lastRedemption
  numbered := by rw [redemptions_setUsage]; exact h.numbered

theorem addRedemption (h : l.WellFormed) {r : RedemptionRecord} (next : r.id = l.lastRedemptionId + 1) :
    (l.addRedemption r).WellFormed where
  codes := h.codes
  made := h.made
  last := h.last
  issued := h.issued
  counter_live key u := by rw [counter?_addRedemption]; exact h.counter_live key u
  counter_exists id d stored := by
    simp only [counter?_addRedemption]
    exact h.counter_exists id d stored
  counter_unique key other u v := by
    rw [counter?_addRedemption, counter?_addRedemption]
    exact h.counter_unique key other u v
  bounds key u := by rw [counter?_addRedemption]; exact h.bounds key u
  lastRedemption := by
    show r.id = ((l.redemptions ++ [r]).length : Int)
    rw [next, h.lastRedemption, List.length_append]
    rfl
  numbered := by
    show (l.redemptions ++ [r]).map RedemptionRecord.id = _
    rw [List.map_append, h.numbered]
    simp [Ledger.addRedemption, List.range_succ, next, h.lastRedemption]

/-- The switch is not part of the invariant. -/
theorem switch (h : l.WellFormed) (fail : Bool) : { l with failOnRedeem := fail }.WellFormed where
  codes := h.codes
  made := h.made
  last := h.last
  issued := h.issued
  counter_live key u := by rw [counter?_failOnRedeem]; exact h.counter_live key u
  counter_exists id d stored := by
    simp only [counter?_failOnRedeem]
    exact h.counter_exists id d stored
  counter_unique key other u v := by
    rw [counter?_failOnRedeem, counter?_failOnRedeem]
    exact h.counter_unique key other u v
  bounds key u := by rw [counter?_failOnRedeem]; exact h.bounds key u
  lastRedemption := h.lastRedemption
  numbered := h.numbered

/-- A call keeps the invariant. -/
theorem effect (h : l.WellFormed) {reply : Reply} {l' : Ledger} (e : Effect l reply l') :
    l'.WellFormed := by
  cases e with
  | nothing => exact h
  | created c sound free => exact h.addCoupon sound free
  | deleted id c stored => exact h.removeCoupon stored
  | inserted r next => exact h.addRedemption next
  | redeemed _ r key u next _ _ _ counted left =>
    exact (h.setUsage counted left r.redeemedAt).addRedemption (by rw [lastRedemptionId_setUsage, next])

end WellFormed

/-- **Every ledger that commands lead to is well-formed.** -/
theorem Reachable.wellFormed {l : Ledger} (reached : l.Reachable) : l.WellFormed := by
  induction reached with
  | empty => exact .empty
  | exec _ command ih =>
    cases command with
    | call c => exact ih.effect (effect_answer _ c)
    | failOnRedeem fail => exact ih.switch fail

end Ledger

end Couponry
