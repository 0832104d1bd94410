import Couponry.Proofs.Sql.Lookups

/-!
# Histories in order

A history can be sorted before or after its redemptions are joined with their coupons: no two
redemptions have one id, so only one order of them is sorted.
-/

namespace Couponry

theorem Instant.lt_trans {a b c : Instant} (first : a < b) (second : b < c) : a < c := by
  revert first second
  show _ ∨ _ → _ ∨ _ → _ ∨ _
  omega

theorem Instant.lt_or_eq_or_lt (a b : Instant) : a < b ∨ a = b ∨ b < a := by
  cases a
  cases b
  simp only [mk.injEq]
  show (_ ∨ _) ∨ _ ∨ (_ ∨ _)
  dsimp only
  omega

theorem Instant.not_lt_self (a : Instant) : ¬a < a := by
  show ¬(_ ∨ _)
  omega

namespace Sql

theorem comesFirst_trans (p q r : RedemptionRecord) (first : comesFirst p q = true)
    (second : comesFirst q r = true) : comesFirst p r = true := by
  simp only [comesFirst, decide_eq_true_eq] at first second ⊢
  rcases first with earlier | ⟨same, small⟩
  · rcases second with later | ⟨same, -⟩
    · exact .inl (Instant.lt_trans earlier later)
    · exact .inl (same ▸ earlier)
  · rcases second with later | ⟨same', small'⟩
    · exact .inl (same ▸ later)
    · exact .inr ⟨same.trans same', Int.le_trans small small'⟩

theorem comesFirst_total (p q : RedemptionRecord) : (comesFirst p q || comesFirst q p) = true := by
  simp only [comesFirst, Bool.or_eq_true, decide_eq_true_eq]
  rcases Instant.lt_or_eq_or_lt p.redeemedAt q.redeemedAt with earlier | same | later
  · exact .inl (.inl earlier)
  · rcases Int.le_total p.id q.id with small | great
    · exact .inl (.inr ⟨same, small⟩)
    · exact .inr (.inr ⟨same.symm, great⟩)
  · exact .inr (.inl later)

/-- Two redemptions of which each comes no later than the other have one id. -/
theorem id_eq_of_comesFirst {p q : RedemptionRecord} (first : comesFirst p q = true)
    (second : comesFirst q p = true) : p.id = q.id := by
  simp only [comesFirst, decide_eq_true_eq] at first second
  rcases first with earlier | ⟨same, small⟩
  · rcases second with later | ⟨same, -⟩
    · exact absurd (Instant.lt_trans earlier later) (Instant.not_lt_self _)
    · exact absurd (same ▸ earlier) (Instant.not_lt_self _)
  · rcases second with later | ⟨-, great⟩
    · exact absurd (same ▸ later) (Instant.not_lt_self _)
    · exact Int.le_antisymm small great

namespace Shelf

variable {s : Shelf}

theorem eq_of_withCoupon {r : RedemptionRecord} {p : RedemptionRecord × Coupon}
    (joined : s.withCoupon r = some p) : p.1 = r ∧ s.coupon? p.1.couponId = some p.2 := by
  obtain ⟨c, stored, rfl⟩ := Option.map_eq_some_iff.1 joined
  exact ⟨rfl, stored⟩

/-- A history sorted before the join. -/
theorem history_eq (sound : s.Sound) (userId : UserId) : s.history userId =
    ((s.uses.filter fun r => decide (r.userId = userId)).mergeSort comesFirst).filterMap
      s.withCoupon := by
  let mine := s.uses.filter fun r => decide (r.userId = userId)
  have joined : (s.uses.filterMap s.withCoupon).filter (fun p => decide (p.1.userId = userId)) =
      mine.filterMap s.withCoupon := by
    rw [List.filter_filterMap, List.filterMap_filter]
    refine congrArg (fun f => s.uses.filterMap f) (funext fun r => ?_)
    cases stored : s.coupon? r.couponId with
    | none => simp [withCoupon, stored]
    | some c => simp [withCoupon, stored, Option.filter]
  have perm : (s.history userId).Perm ((mine.mergeSort comesFirst).filterMap s.withCoupon) := by
    rw [history, joined]
    exact (List.mergeSort_perm _ _).trans ((List.mergeSort_perm mine comesFirst).filterMap _).symm
  have first : (s.history userId).Pairwise fun p q => comesFirst p.1 q.1 = true :=
    List.pairwise_mergeSort (fun p q r => comesFirst_trans p.1 q.1 r.1)
      (fun p q => comesFirst_total p.1 q.1) _
  have second : ((mine.mergeSort comesFirst).filterMap s.withCoupon).Pairwise
      fun p q => comesFirst p.1 q.1 = true := by
    refine List.Pairwise.filterMap s.withCoupon ?_
      (List.pairwise_mergeSort comesFirst_trans comesFirst_total mine)
    intro r q before p first p' second
    rwa [(eq_of_withCoupon first).1, (eq_of_withCoupon second).1]
  have origin (p) (listed : p ∈ (mine.mergeSort comesFirst).filterMap s.withCoupon) :
      p.1 ∈ s.uses ∧ s.coupon? p.1.couponId = some p.2 := by
    obtain ⟨r, sorted, from_⟩ := List.mem_filterMap.1 listed
    obtain ⟨same, stored⟩ := eq_of_withCoupon from_
    exact ⟨same ▸ (List.mem_filter.1 (List.mem_mergeSort.1 sorted)).1, stored⟩
  refine List.Perm.eq_of_pairwise ?_ first second perm
  intro p q left right before after
  obtain ⟨used, stored⟩ := origin p (perm.mem_iff.1 left)
  obtain ⟨used', stored'⟩ := origin q right
  have found := Keyed.lookup_of_mem sound.uses used
  rw [id_eq_of_comesFirst before after, Keyed.lookup_of_mem sound.uses used'] at found
  have redemption : p.1 = q.1 := (Option.some.inj found).symm
  rw [redemption, stored'] at stored
  exact Prod.ext redemption (Option.some.inj stored).symm

end Shelf

end Sql

end Couponry
