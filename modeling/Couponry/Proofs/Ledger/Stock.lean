import Couponry.Proofs.Ledger.WellFormed

/-!
# How many coupons there are

The entries of a table have distinct keys, so what is inserted under a new key is one entry more and what
is erased is one entry less. So a creation adds one coupon to a ledger, a deletion takes one away, and a
redemption leaves their number as it is.
-/

namespace Couponry

namespace Table

variable {κ α : Type} [DecidableEq κ] {t : Table κ α} {k : κ}

/-- The keys of the entries, in their order. -/
def keys (t : Table κ α) : List κ :=
  t.entries.map Prod.fst

theorem isSome_get?_iff : (t.get? k).isSome = true ↔ k ∈ t.keys := by
  obtain ⟨entries⟩ := t
  show (find k entries).isSome = true ↔ k ∈ entries.map Prod.fst
  induction entries with
  | nil => simp [find]
  | cons e entries ih =>
    obtain ⟨l, a⟩ := e
    by_cases same : k = l <;> simp [find, same, ih]

theorem keys_erase (t : Table κ α) (k : κ) :
    (t.erase k).keys = t.keys.filter fun l => decide (l ≠ k) := by
  rw [keys, keys, List.filter_map]
  rfl

theorem nodup_erase (distinct : t.keys.Nodup) (k : κ) : (t.erase k).keys.Nodup := by
  rw [keys_erase]
  exact distinct.filter _

theorem nodup_insert (distinct : t.keys.Nodup) (k : κ) (a : α) : (t.insert k a).keys.Nodup := by
  refine List.nodup_cons.2 ⟨fun again => ?_, nodup_erase distinct k⟩
  have other : k ∈ (t.erase k).keys := again
  rw [keys_erase, List.mem_filter, decide_eq_true_eq] at other
  exact other.2 rfl

/-- What is there is erased once. -/
theorem length_erase (distinct : t.keys.Nodup) (found : (t.get? k).isSome = true) :
    (t.erase k).entries.length + 1 = t.entries.length := by
  have here : k ∈ t.keys := isSome_get?_iff.1 found
  have count : (t.erase k).keys.length = t.keys.length - 1 := by
    rw [keys_erase, ← List.length_erase_of_mem here, distinct.erase_eq_filter]
    congr 2
    funext l
    by_cases same : l = k <;> simp [same]
  have some : 0 < t.keys.length := List.length_pos_of_mem here
  rw [keys, List.length_map] at count
  rw [keys, List.length_map] at count some
  omega

theorem erase_of_none (missing : t.get? k = none) : t.erase k = t := by
  have absent : k ∉ t.keys := fun here => by
    have found := isSome_get?_iff.2 here
    rw [missing] at found
    cases found
  refine congrArg Table.mk (List.filter_eq_self.2 fun e member => ?_)
  rw [decide_eq_true_eq]
  rintro rfl
  exact absent (List.mem_map_of_mem member)

/-- What is new is one entry more. -/
theorem length_insert_of_none (missing : t.get? k = none) (a : α) :
    (t.insert k a).entries.length = t.entries.length + 1 := by
  show (t.erase k).entries.length + 1 = _
  rw [erase_of_none missing]

/-- What is replaced is no entry more. -/
theorem length_insert_of_some (distinct : t.keys.Nodup) (found : (t.get? k).isSome = true) (a : α) :
    (t.insert k a).entries.length = t.entries.length :=
  length_erase distinct found

end Table

namespace Ledger

/-- The ledger is as calls leave it, and no coupon is stored twice. -/
structure Stocked (l : Ledger) : Prop where
  formed : l.WellFormed
  distinct : l.coupons.keys.Nodup

/-- How many coupons are stored. -/
def stock (l : Ledger) : Nat :=
  l.coupons.entries.length

namespace Stocked

variable {l l' : Ledger}

/-- A creation adds one coupon. -/
theorem create (h : l.Stocked) {c : NewCoupon} {id : CouponId}
    (made : l.createCoupon c = (.ok id, l')) : l'.Stocked ∧ l'.stock = l.stock + 1 := by
  obtain ⟨sound, free, -, rfl⟩ := createCoupon_eq_ok made
  have fresh : l.coupons.get? l.nextCouponId = none := by
    have undefined := h.formed.definition?_next
    rw [definition?, Option.map_eq_none_iff] at undefined
    exact undefined
  refine ⟨⟨h.formed.addCoupon sound free, ?_⟩, ?_⟩
  · rw [coupons_addCoupon]
    exact Table.nodup_insert h.distinct _ _
  · rw [stock, coupons_addCoupon, Table.length_insert_of_none fresh]
    rfl

/-- A deletion takes one coupon away. -/
theorem delete (h : l.Stocked) {id : CouponId} (gone : l.deleteCoupon id = (.ok (), l')) :
    l'.Stocked ∧ l'.stock + 1 = l.stock ∧ l'.redemptions = l.redemptions := by
  have e := effect_deleteCoupon l id
  rw [gone] at e
  cases e with
  | nothing _ quiet => cases quiet
  | deleted id c stored =>
    refine ⟨⟨h.formed.removeCoupon stored, Table.nodup_erase h.distinct id⟩, ?_, rfl⟩
    exact Table.length_erase h.distinct (by rw [stored]; rfl)

/-- A redemption adds one redemption, and no coupon. -/
theorem redeem (h : l.Stocked) {c : Coupon} {userId : UserId} {productId : Option ProductId}
    {time : Instant} {r : RedemptionRecord}
    (made : l.redeem c userId productId time = (.ok r, l')) :
    l'.Stocked ∧ l'.stock = l.stock ∧ l'.redemptions = l.redemptions ++ [r] := by
  have formed : l'.WellFormed := by
    have e := h.formed.effect (effect_redeem l c userId productId time)
    rw [made] at e
    exact e
  obtain ⟨-, -, -, -, key, u, -, counted, -, rfl⟩ := redeem_eq_ok made
  have moved := sets_setUsage counted u.bump time
  have coupons : (l.setUsage key u.bump time).coupons.keys.Nodup ∧
      (l.setUsage key u.bump time).stock = l.stock := by
    generalize l.setUsage key u.bump time = after at moved
    cases moved with
    | coupon id c stored =>
      exact ⟨Table.nodup_insert h.distinct _ _,
        Table.length_insert_of_some h.distinct (by rw [stored]; rfl) _⟩
    | user | product => exact ⟨h.distinct, rfl⟩
  refine ⟨⟨formed, coupons.1⟩, coupons.2, ?_⟩
  show (l.setUsage key u.bump time).redemptions ++ [r] = _
  rw [redemptions_setUsage]

end Stocked

end Ledger

end Couponry
