import Couponry.Proofs.Ledger.Continuation
import Couponry.Proofs.Sql.History
import Mathlib.Data.List.Forall2
import Mathlib.Data.List.Nodup

/-!
# The history of a user

Which redemptions a user is told of, in which order and in which words, over every run of a ledger. To
sort and to leave out records commute, since no two records have one id: this carries the join with the
coupons and the deletion of a coupon. A new coupon tells of nothing, since `Filed` has every record name
an id that was given out before.
-/

namespace Couponry

open Sql (comesFirst comesFirst_trans comesFirst_total id_eq_of_comesFirst)

/-- The redemption is the earlier one, or of the same time and has the smaller id. -/
def RedemptionRecord.Before (r q : RedemptionRecord) : Prop :=
  r.redeemedAt < q.redeemedAt ∨ r.redeemedAt = q.redeemedAt ∧ r.id < q.id

instance (r q : RedemptionRecord) : Decidable (r.Before q) :=
  inferInstanceAs (Decidable (_ ∨ _ ∧ _))

theorem RedemptionRecord.before_of_comesFirst {r q : RedemptionRecord} (first : comesFirst r q = true)
    (other : r.id ≠ q.id) : r.Before q := by
  rcases of_decide_eq_true first with earlier | ⟨same, small⟩
  · exact .inl earlier
  · exact .inr ⟨same, Int.lt_iff_le_and_ne.2 ⟨small, other⟩⟩

/-! ## Records in order -/

section Sorting

variable {rs : List RedemptionRecord}

/-- Records of which no two have one id are in order in one way only. -/
theorem mergeSort_eq_of_perm {qs : List RedemptionRecord} (distinct : (rs.map RedemptionRecord.id).Nodup)
    (perm : rs.Perm qs) (ordered : qs.Pairwise fun r q => comesFirst r q = true) :
    rs.mergeSort comesFirst = qs := by
  have sorted := List.mergeSort_perm rs comesFirst
  refine (sorted.trans perm).eq_of_pairwise ?_
    (List.pairwise_mergeSort comesFirst_trans comesFirst_total rs) ordered
  intro r q left right first second
  exact List.inj_on_of_nodup_map distinct (sorted.mem_iff.1 left) (perm.mem_iff.2 right)
    (id_eq_of_comesFirst first second)

/-- Records can be left out after the others are sorted, or before. -/
theorem filter_mergeSort (distinct : (rs.map RedemptionRecord.id).Nodup) (keep : RedemptionRecord → Bool) :
    (rs.mergeSort comesFirst).filter keep = (rs.filter keep).mergeSort comesFirst := by
  refine (mergeSort_eq_of_perm ?_ ?_ ?_).symm
  · exact distinct.sublist (List.filter_sublist.map _)
  · exact (List.mergeSort_perm rs comesFirst).symm.filter keep
  · exact (List.pairwise_mergeSort comesFirst_trans comesFirst_total rs).filter keep

end Sorting

namespace Ledger

/-! ## What is told of a record -/

/-- What a user sees of a redemption, while its coupon is live. -/
def line? (l : Ledger) (r : RedemptionRecord) : Option UsedCoupon :=
  (l.coupons.get? r.couponId).map fun c => ⟨c.code, c.description, c.imageUrl, r.redeemedAt⟩

/-- The entry tells of the redemption: in the words of its coupon, and with its own time. -/
def Tells (l : Ledger) (r : RedemptionRecord) (e : UsedCoupon) : Prop :=
  ∃ c, l.coupons.get? r.couponId = some c ∧ e = ⟨c.code, c.description, c.imageUrl, r.redeemedAt⟩

/-- The redemptions of a user whose coupons are live, in order. -/
def shown (l : Ledger) (userId : UserId) : List RedemptionRecord :=
  (l.redemptions.filter fun r =>
    decide (r.userId = userId) && l.coupons.contains r.couponId).mergeSort comesFirst

section Entries

variable {l : Ledger} {r : RedemptionRecord}

theorem mem_shown {userId : UserId} : r ∈ l.shown userId ↔
    r ∈ l.redemptions ∧ r.userId = userId ∧ l.coupons.contains r.couponId = true := by
  simp [shown]

theorem tells_of_line? {e : UsedCoupon} (told : l.line? r = some e) : l.Tells r e := by
  obtain ⟨c, stored, same⟩ := Option.map_eq_some_iff.1 told
  exact ⟨c, stored, same.symm⟩

theorem isSome_line? (l : Ledger) (r : RedemptionRecord) :
    (l.line? r).isSome = l.coupons.contains r.couponId :=
  Option.isSome_map

theorem contains_eq (l : Ledger) (id : CouponId) : l.coupons.contains id = (l.definition? id).isSome :=
  Option.isSome_map.symm

/-- Of a coupon an entry tells nothing that redemptions change. -/
theorem line?_eq (l : Ledger) (r : RedemptionRecord) : l.line? r =
    (l.definition? r.couponId).map fun d => ⟨d.code, d.description, d.imageUrl, r.redeemedAt⟩ := by
  rw [line?, definition?, Option.map_map]
  rfl

/-- What is shown of a user depends on the records of the user and on the coupons that they name. -/
theorem shown_congr {l' : Ledger} {userId : UserId}
    (records : (l'.redemptions.filter fun r => decide (r.userId = userId)) =
      l.redemptions.filter fun r => decide (r.userId = userId))
    (coupons : ∀ r ∈ l.redemptions, l'.definition? r.couponId = l.definition? r.couponId) :
    l'.shown userId = l.shown userId ∧ l'.listUsedByUser userId = l.listUsedByUser userId := by
  have mine (l : Ledger) : (l.redemptions.filter fun r =>
      decide (r.userId = userId) && l.coupons.contains r.couponId) =
        (l.redemptions.filter fun r => decide (r.userId = userId)).filter fun r =>
          (l.definition? r.couponId).isSome := by
    simp only [List.filter_filter, contains_eq, Bool.and_comm]
  have listed (l : Ledger) : l.listUsedByUser userId =
      ((l.redemptions.filter fun r => decide (r.userId = userId)).mergeSort comesFirst).filterMap l.line? :=
    rfl
  constructor
  · rw [shown, shown, mine, mine, records]
    refine congrArg (List.mergeSort · comesFirst) (List.filter_congr fun r own => ?_)
    rw [coupons r (List.mem_filter.1 own).1]
  · rw [listed, listed, records]
    refine List.filterMap_congr fun r own => ?_
    have made := (List.mem_filter.1 (List.mem_mergeSort.1 own)).1
    rw [line?_eq, line?_eq, coupons r made]

end Entries

/-- What passes a test is told in order. -/
theorem forall₂_filterMap {α β : Type} (f : α → Option β) (xs : List α) :
    List.Forall₂ (fun x y => f x = some y) (xs.filter fun x => (f x).isSome) (xs.filterMap f) := by
  induction xs with
  | nil => exact .nil
  | cons x xs ih =>
    cases told : f x with
    | none => simpa [told] using ih
    | some y => simpa [told] using ih

namespace WellFormed

variable {l : Ledger}

/-- No two redemptions have one id. -/
theorem nodup_ids (h : l.WellFormed) : (l.redemptions.map RedemptionRecord.id).Nodup := by
  rw [h.numbered]
  refine List.Nodup.map (fun i j (same : (i : Int) + 1 = j + 1) => ?_) List.nodup_range
  omega

/-- Some of the records, of which no two have one id either. -/
theorem nodup_filter (h : l.WellFormed) (keep : RedemptionRecord → Bool) :
    ((l.redemptions.filter keep).map RedemptionRecord.id).Nodup :=
  h.nodup_ids.sublist (List.filter_sublist.map _)

/-- The records that are shown are those of the user that tell of a coupon. -/
theorem shown_eq (h : l.WellFormed) (userId : UserId) : l.shown userId =
    ((l.redemptions.filter fun r => decide (r.userId = userId)).mergeSort comesFirst).filter fun r =>
      (l.line? r).isSome := by
  rw [shown, filter_mergeSort (h.nodup_filter _), List.filter_filter]
  simp only [isSome_line?, Bool.and_comm]

theorem ordered (h : l.WellFormed) (userId : UserId) :
    (l.shown userId).Pairwise RedemptionRecord.Before := by
  have distinct : ((l.shown userId).map RedemptionRecord.id).Nodup :=
    ((List.mergeSort_perm _ _).map _).nodup_iff.2 (h.nodup_filter _)
  refine (List.Pairwise.and (List.pairwise_mergeSort comesFirst_trans comesFirst_total _)
    (List.pairwise_map.1 distinct)).imp ?_
  intro r q ⟨first, other⟩
  exact RedemptionRecord.before_of_comesFirst first other

theorem told (h : l.WellFormed) (userId : UserId) :
    List.Forall₂ l.Tells (l.shown userId) (l.listUsedByUser userId) := by
  rw [h.shown_eq]
  exact (forall₂_filterMap l.line? _).imp fun _ _ => tells_of_line?

/-! ## Deletions -/

/-- A deletion leaves out the records of the coupon. -/
theorem shown_deleteCoupon (h : l.WellFormed) (id : CouponId) (userId : UserId) :
    (l.deleteCoupon id).2.shown userId =
      (l.shown userId).filter fun r => decide (r.couponId ≠ id) := by
  have live (k : CouponId) : (l.deleteCoupon id).2.coupons.contains k =
      (decide (k ≠ id) && l.coupons.contains k) := by
    unfold deleteCoupon Table.contains
    split
    · next unknown =>
      by_cases same : k = id
      · simp [same, unknown]
      · simp [same]
    · next c stored =>
      rw [Table.get?_erase]
      by_cases same : k = id <;> simp [same]
  rw [shown, shown, redemptions_deleteCoupon, filter_mergeSort (h.nodup_filter _), List.filter_filter]
  refine congrArg (List.mergeSort · comesFirst) (List.filter_congr fun r _ => ?_)
  rw [live, Bool.and_left_comm]

/-- No two live coupons have one code. -/
theorem eq_of_code (h : l.WellFormed) {id k : CouponId} {c d : Coupon} (stored : l.coupons.get? id = some c)
    (other : l.coupons.get? k = some d) (same : d.code = c.code) : k = id := by
  have known := (h.codes c.code id).2 ⟨c.definition, definition?_of_stored stored, rfl⟩
  have known' := (h.codes c.code k).2 ⟨d.definition, definition?_of_stored other, same⟩
  exact Option.some.inj (known'.symm.trans known)

/-- A deletion leaves out the entries with the code of the coupon. -/
theorem listUsedByUser_deleteCoupon (h : l.WellFormed) {id : CouponId} {c : Coupon}
    (stored : l.coupons.get? id = some c) (userId : UserId) :
    (l.deleteCoupon id).1 = .ok () ∧ (l.deleteCoupon id).2.listUsedByUser userId =
      (l.listUsedByUser userId).filter fun e => decide (e.code ≠ c.code) := by
  simp only [deleteCoupon, stored, true_and]
  show List.filterMap _ _ = (List.filterMap _ _).filter _
  rw [List.filter_filterMap]
  refine List.filterMap_congr fun r _ => ?_
  show ((l.coupons.erase id).get? r.couponId).map _ = Option.filter _ (l.line? r)
  rw [Table.get?_erase, line?]
  by_cases own : r.couponId = id
  · rw [if_pos own, own, stored]
    simp [Option.filter]
  · rw [if_neg own]
    cases found : l.coupons.get? r.couponId with
    | none => rfl
    | some d =>
      have other : d.code ≠ c.code := fun same => own (h.eq_of_code stored found same)
      simp [Option.filter, other]

end WellFormed

/-! ## What leaves a history alone -/

/-- The command neither deletes a coupon nor records a use of one for this user. -/
def Command.SparesUser (userId : UserId) : Command → Prop
  | .call (.deleteCoupon _) => False
  | .call (.insertRedemption _ other _ _) => other ≠ userId
  | .call (.redeem _ other _ _) => other ≠ userId
  | _ => True

/-- A record of another user is not among those of the user. -/
theorem filter_concat {rs : List RedemptionRecord} {r : RedemptionRecord} {userId : UserId}
    (other : r.userId ≠ userId) : ((rs ++ [r]).filter fun r => decide (r.userId = userId)) =
      rs.filter fun r => decide (r.userId = userId) := by
  simp [List.filter_append, other]

end Ledger

namespace Book

open Ledger (Command Effect)

/-- A redemption is recorded without a check only if the id was given out. -/
def Admits (b : Book) : Command → Prop
  | .call (.insertRedemption id _ _ _) => id ∈ issuedIds b.history
  | _ => True

instance (b : Book) : DecidablePred b.Admits
  | .call (.insertRedemption id _ _ _) => inferInstanceAs (Decidable (id ∈ _))
  | .call (.createCoupon _) | .call (.deleteCoupon _) | .call (.getByCode _) | .call (.getUserGrant _ _)
  | .call (.getProductGrant _ _) | .call (.redeem _ _ _ _) | .call (.listUsedByUser _)
  | .failOnRedeem _ => .isTrue trivial

/-- `b'` has come of `b` by commands that were admitted. -/
inductive Proceeds (b : Book) : Book → Prop where
  | refl : Proceeds b b
  | exec {b' : Book} (proceeds : Proceeds b b') (command : Command) (admitted : b'.Admits command) :
      Proceeds b (b'.exec command)

/-- Every record names an id that was given out. -/
structure Filed (b : Book) : Prop where
  sound : b.Sound
  named : ∀ r ∈ b.ledger.redemptions, r.couponId ∈ issuedIds b.history

namespace Filed

theorem blank : blank.Filed where
  sound := .blank
  named _ made := absurd made List.not_mem_nil

variable {b : Book}

/-- No record names the id that is given out next. -/
theorem ne_next (h : b.Filed) {r : RedemptionRecord} (made : r ∈ b.ledger.redemptions) :
    r.couponId ≠ b.ledger.nextCouponId := by
  intro next
  obtain ⟨c, created⟩ := mem_issuedIds.1 (h.named r made)
  have bound := h.sound.issued c _ created
  rw [next] at bound
  simp only [Ledger.nextCouponId] at bound
  omega

/-- A call preserves that every record names an id that was given out. -/
theorem effect (h : b.Filed) {reply : Reply} {l : Ledger} (e : Effect b.ledger reply l)
    (admitted : ∀ r, reply = .insertion r → r.couponId ∈ issuedIds b.history) :
    Filed ⟨l, b.history ++ [reply]⟩ := by
  have more : issuedIds b.history ⊆ issuedIds (b.history ++ [reply]) := by
    rw [issuedIds, issuedIds, List.filterMap_append]
    exact List.subset_append_left _ _
  have added (r : RedemptionRecord) (redemptions : l.redemptions = b.ledger.redemptions ++ [r])
      (issued : r.couponId ∈ issuedIds b.history) :
      ∀ q ∈ l.redemptions, q.couponId ∈ issuedIds (b.history ++ [reply]) := by
    rw [redemptions]
    intro q made
    rcases List.mem_append.1 made with old | new
    · exact more (h.named q old)
    · rw [List.mem_singleton.1 new]
      exact more issued
  refine ⟨h.sound.effect e, ?_⟩
  cases e with
  | nothing => exact fun r made => more (h.named r made)
  | created c => exact fun r made => more (h.named r (Ledger.redemptions_addCoupon _ c ▸ made))
  | deleted => exact fun r made => more (h.named r made)
  | inserted r => exact added r rfl (admitted r rfl)
  | redeemed coupon r key u _ of _ named counted =>
    refine added r ?_ ?_
    · show (b.ledger.setUsage key u.bump r.redeemedAt).redemptions ++ [r] = _
      rw [Ledger.redemptions_setUsage]
    · obtain ⟨before, c, after, split⟩ := h.sound.created key u counted
      rw [(Ledger.key_of_counterKey named).1.trans of.symm] at split
      exact mem_issuedIds.2 ⟨c, by rw [split]; simp⟩

theorem exec (h : b.Filed) {command : Command} (admitted : b.Admits command) : (b.exec command).Filed := by
  cases command with
  | call c =>
    refine h.effect (Ledger.effect_answer b.ledger c) fun r same => ?_
    have call : c = .insertRedemption r.couponId r.userId r.productId r.redeemedAt :=
      congrArg Reply.call same
    rw [call] at admitted
    exact admitted
  | failOnRedeem fail => exact ⟨h.sound.exec _, h.named⟩

/-- What is neither for the user nor a deletion leaves the history of the user as it is. -/
theorem spared (h : b.Filed) {userId : UserId} {command : Command} (spares : command.SparesUser userId) :
    (b.exec command).ledger.shown userId = b.ledger.shown userId ∧
      (b.exec command).ledger.listUsedByUser userId = b.ledger.listUsedByUser userId := by
  cases command with
  | failOnRedeem fail => exact ⟨rfl, rfl⟩
  | call c =>
    have e := Ledger.effect_answer b.ledger c
    show (Ledger.answer c b.ledger).2.shown userId = _ ∧
      (Ledger.answer c b.ledger).2.listUsedByUser userId = _
    generalize reply : (⟨c, (Ledger.answer c b.ledger).1⟩ : Reply) = reply at e
    generalize (Ledger.answer c b.ledger).2 = l at e
    cases e with
    | nothing => exact ⟨rfl, rfl⟩
    | created c =>
      refine Ledger.shown_congr (by rw [Ledger.redemptions_addCoupon]) fun r made => ?_
      rw [Ledger.definition?_addCoupon, if_neg (h.ne_next made)]
    | deleted id =>
      cases congrArg Reply.call reply
      exact spares.elim
    | inserted r =>
      cases congrArg Reply.call reply
      exact Ledger.shown_congr (Ledger.filter_concat spares) fun _ _ => rfl
    | redeemed coupon r key u =>
      cases congrArg Reply.call reply
      refine Ledger.shown_congr ?_ fun _ _ => ?_
      · show ((b.ledger.setUsage key u.bump r.redeemedAt).redemptions ++ [r]).filter _ = _
        rw [Ledger.redemptions_setUsage, Ledger.filter_concat spares]
      · rw [Ledger.definition?_addRedemption, Ledger.definition?_setUsage]

end Filed

theorem Proceeds.filed {b b' : Book} (h : b.Filed) (proceeds : b.Proceeds b') : b'.Filed := by
  induction proceeds with
  | refl => exact h
  | exec _ command admitted ih => exact ih.exec admitted

/-- What has happened stays on record. -/
theorem Proceeds.history {b b' : Book} (h : b.Filed) (proceeds : b.Proceeds b') :
    b.history <+: b'.history := by
  induction proceeds with
  | refl => exact List.prefix_refl _
  | exec earlier command _ ih => exact ih.trans (Leads.exec (earlier.filed h).sound command).history

/-! ## The history of a user -/

/-- What the history of a user tells at one point of a run, `b`, and at any later one, `b'`. -/
structure Chronicle (b b' : Book) (userId : UserId) : Prop where
  /-- Shown are all redemptions of the user whose coupons are live, and nothing else. -/
  complete : (b.ledger.shown userId).Perm (b.ledger.redemptions.filter fun r =>
    decide (r.userId = userId) && b.ledger.coupons.contains r.couponId)
  /-- They are shown by time, those of one time by id, and none of them twice. -/
  ordered : (b.ledger.shown userId).Pairwise RedemptionRecord.Before
  /-- The history has an entry for each of them, in this order. -/
  told : List.Forall₂ b.ledger.Tells (b.ledger.shown userId) (b.ledger.listUsedByUser userId)
  /-- A deletion takes away the records of the coupon, and leaves the others in order. -/
  deleted : ∀ id, (b.ledger.deleteCoupon id).2.shown userId =
    (b.ledger.shown userId).filter fun r => decide (r.couponId ≠ id)
  /-- The entries that it takes away are those with the code of the coupon. -/
  removed : ∀ id c, b.ledger.coupons.get? id = some c → (b.ledger.deleteCoupon id).1 = .ok () ∧
    (b.ledger.deleteCoupon id).2.listUsedByUser userId =
      (b.ledger.listUsedByUser userId).filter fun e => decide (e.code ≠ c.code)
  /-- Nothing is shown again of a coupon that was deleted. -/
  gone : ∀ id, .deletion id ∈ b.history → ∀ r ∈ b'.ledger.shown userId, r.couponId ≠ id
  /-- What is neither for the user nor a deletion leaves the history as it is. -/
  spared : ∀ command, command.SparesUser userId →
    (b.exec command).ledger.shown userId = b.ledger.shown userId ∧
      (b.exec command).ledger.listUsedByUser userId = b.ledger.listUsedByUser userId

/-- **A history is the exact join of redemptions and coupons, in order**, at every point of a run. -/
theorem chronicle_of_proceeds {b b' : Book} (earlier : blank.Proceeds b) (later : b.Proceeds b')
    (userId : UserId) : b.Chronicle b' userId := by
  have h := earlier.filed .blank
  have wellFormed := h.sound.wellFormed
  refine ⟨List.mergeSort_perm _ _, wellFormed.ordered userId, wellFormed.told userId,
    fun id => wellFormed.shown_deleteCoupon id userId,
    fun id c stored => wellFormed.listUsedByUser_deleteCoupon stored userId, ?_, fun _ => h.spared⟩
  rintro id deleted r listed rfl
  have none := ((later.filed h).sound.gone _ ((later.history h).subset deleted)).2
  obtain ⟨-, -, live⟩ := Ledger.mem_shown.1 listed
  rw [Ledger.contains_eq, none] at live
  cases live

/-- Of three uses, recorded while the clock ran backwards, the user is shown those of the coupons that are
left, the earlier one first. A new coupon with the code of the one that was deleted brings nothing back. -/
theorem chronicle_backwards :
    let ask := fun code : String =>
      (⟨code, ⟨0, 0⟩, ⟨100, 0⟩, .percent 10, .limited, 5, none, none, ⟨1⟩, ⟨0, 0⟩⟩ : NewCoupon)
    let begun := ((blank.exec (.call (.createCoupon (ask "TEA")))).exec
      (.call (.createCoupon (ask "CAKE")))).exec (.call (.createCoupon (ask "MUG")))
    let used := ((begun.exec (.call (.redeem ((ask "TEA").stored ⟨1⟩) ⟨2⟩ none ⟨9, 0⟩))).exec
      (.call (.insertRedemption ⟨2⟩ ⟨2⟩ none ⟨6, 0⟩))).exec
      (.call (.redeem ((ask "MUG").stored ⟨3⟩) ⟨2⟩ none ⟨4, 0⟩))
    let b := used.exec (.call (.deleteCoupon ⟨2⟩))
    let b' := b.exec (.call (.createCoupon (ask "CAKE")))
    blank.Proceeds b ∧ b.Proceeds b' ∧ b.Chronicle b' ⟨2⟩ ∧ b'.ledger.codes.get? "CAKE" = some ⟨4⟩ ∧
      b'.ledger.shown ⟨2⟩ = [⟨3, ⟨3⟩, ⟨2⟩, none, ⟨4, 0⟩⟩, ⟨1, ⟨1⟩, ⟨2⟩, none, ⟨9, 0⟩⟩] := by
  intro ask begun used b b'
  have earlier : blank.Proceeds b := by
    iterate 7 refine .exec ?_ _ (by decide)
    exact .refl
  have later : b.Proceeds b' := .exec .refl _ (by decide)
  exact ⟨earlier, later, chronicle_of_proceeds earlier later ⟨2⟩, by decide,
    mergeSort_eq_of_perm (by decide) (by decide) (by decide)⟩

end Book

end Couponry
