import Couponry.Proofs.Sql.Sessions

/-!
# Calls on a shelf

What each call to the store of coupons gives when a server executes its statements on a shelf, and
what shelf it leaves. Of a shelf that is written it is assumed that no constraint is violated.
-/

namespace Couponry.Sql

open Ledger (CounterKey)
open Coupons

/-- No constraint is violated. -/
def Shelf.Fits (s : Shelf) : Prop :=
  s.database.violated? = none

/-- The next redemption. -/
def Shelf.nextUse (s : Shelf) (id : CouponId) (userId : UserId) (productId : Option ProductId)
    (time : Instant) : RedemptionRecord :=
  ⟨s.lastUseId + 1, id, userId, productId, time⟩

/-- What a call answers on a shelf, and the shelf that it leaves. -/
def Gives {α : Type} (p : SessionProgram α) (s : Shelf) (a : α) (after : Shelf) : Prop :=
  onServer p (.within none s.database) = (a, .within none after.database)

section Calls

variable {s : Shelf}

/-! ## Creating and deleting -/

theorem gives_create_of_fault {c : NewCoupon} {fault : CouponFault} (wrong : c.fault? = some fault) :
    Gives (createCoupon c) s (.error (.invalidCoupon fault.message)) s := by
  rw [Gives, createCoupon, wrong]
  rfl

/-- The grant of a coupon that was just written. -/
theorem onServer_insertGrant {c : NewCoupon} (before : Option Database) (h : Holder) (subject : Int)
    (fits : ((s.addCoupon c).addGrant h (.fresh (s.lastCouponId + 1) subject c)).Fits) :
    onServer (Session.affected
        (insertGrant h.table.text h.subject (s.lastCouponId + 1) c (bind subject)))
        (.within before (s.addCoupon c).database) =
      (.ok 1, .within before
        ((s.addCoupon c).addGrant h (.fresh (s.lastCouponId + 1) subject c)).database) :=
  Session.onServer_affected
    (Database.execute_of_fits ((s.addCoupon c).perform_insertGrant h _ subject c) fits)

theorem onServer_writeCoupon {c : NewCoupon} (before : Option Database)
    (first : (s.addCoupon c).Fits) (whole : (s.create c).Fits) :
    onServer (writeCoupon c) (.within before s.database) =
      (.ok ⟨s.lastCouponId + 1⟩, .within before (s.create c).database) := by
  have inserted := Database.execute_of_fits (s.perform_insertCoupon c) first
  have numbered : onServer (Session.value Int (insertCoupon c)) (.within before s.database) =
      (.ok (s.lastCouponId + 1), .within before (s.addCoupon c).database) :=
    Session.onServer_value inserted rfl
  refine (onServer_bind_of numbered _).trans ?_
  unfold Shelf.create at whole ⊢
  unfold insertGrant?
  cases scope : c.scope with
  | limited => rfl
  | perUser userId =>
    rw [scope] at whole
    exact onServer_bind_of (onServer_insertGrant before .user userId.value whole) _
  | perProduct productId =>
    rw [scope] at whole
    exact onServer_bind_of (onServer_insertGrant before .product productId.value whole) _

/-- A creation writes the coupon and its grant. -/
theorem gives_create {c : NewCoupon} (sound : c.fault? = none) (first : (s.addCoupon c).Fits)
    (whole : (s.create c).Fits) :
    Gives (createCoupon c) s (.ok ⟨s.lastCouponId + 1⟩) (s.create c) := by
  rw [Gives, createCoupon, sound]
  exact Session.onServer_transaction .database (onServer_writeCoupon _ first whole)

/-- A creation under a code that is taken writes nothing. -/
theorem gives_create_of_taken {c : NewCoupon} (sound : c.fault? = none)
    (taken : (s.addCoupon c).database.violated? =
      some (Constraint.error .coupons (.unique "unique_coupon_code" ["code"]))) :
    Gives (createCoupon c) s (.error (.duplicateCode c.code)) s := by
  have refused := Database.execute_of_violated (s.perform_insertCoupon c) taken
  have failed : onServer (writeCoupon c) (.within (some s.database) s.database) =
      (.error (.duplicateCode c.code), ⟨s.database, .aborted⟩) :=
    onServer_bind_of (Session.onServer_value_of_refused refused Int) _
  rw [Gives, createCoupon, sound]
  exact Session.onServer_transaction_error .database failed rfl

theorem gives_delete {id : CouponId} {c : Coupon} (sound : s.Sound) (stored : s.coupon? id = some c)
    (fits : (s.removeCoupon id).Fits) : Gives (deleteCoupon id) s (.ok ()) (s.removeCoupon id) := by
  have done := Database.execute_of_fits (Shelf.perform_delete_of_stored sound stored) fits
  rw [Gives, deleteCoupon, onServer_bind_of (Session.onServer_affected done)]
  rfl

theorem gives_delete_of_missing {id : CouponId} (sound : s.Sound) (fits : s.Fits)
    (missing : s.coupon? id = none) :
    Gives (deleteCoupon id) s (.error (.couponIdNotFound id)) s := by
  have done := Database.execute_of_fits (Shelf.perform_delete_of_missing sound missing) fits
  rw [Gives, deleteCoupon, onServer_bind_of (Session.onServer_affected done)]
  rfl

/-! ## Looking up -/

/-- What can be read back of the coupons. -/
def Shelf.Readable (s : Shelf) : Prop :=
  ∀ c ∈ s.coupons, DiscountRule.ofParts c.discount.kind c.discount.value = .ok c.discount ∧
    ∀ u, c.usage = some u → c.scope = .limited

/-- The coupon with a code, as it is on the shelf. -/
def Shelf.getByCode (s : Shelf) (code : String) : Except StoreError Coupon :=
  match Keyed.lookup Coupon.code s.coupons code with
  | some c => .ok c
  | none => .error (.couponNotFound code)

theorem gives_getByCode (fits : s.Fits) (readable : s.Readable) (code : String) :
    Gives (getByCode code) s (s.getByCode code) s := by
  have done := Database.execute_of_fits (s.perform_selectByCode code) fits
  rw [Gives, getByCode, onServer_bind_of (Session.onServer_row? done)]
  have head : ((s.coupons.filter fun c => decide (c.code = code)).map couponRow).head? =
      (Keyed.lookup Coupon.code s.coupons code).map couponRow := by
    rw [List.head?_map, List.head?_filter]
    rfl
  simp only [head, Shelf.getByCode]
  cases found : Keyed.lookup Coupon.code s.coupons code with
  | none => rfl
  | some c =>
    obtain ⟨rule, limited⟩ := readable c (Keyed.mem_of_lookup found)
    show (readCoupon (couponRow c), _) = _
    rw [readCoupon_couponRow rule limited]

theorem onServer_findUsage (sound : s.Sound) (fits : s.Fits) (h : Holder) (id : CouponId)
    (subject : Int) :
    Gives (findUsage (selectGrant h.table.text h.subject id (bind subject))) s
      (.ok ((s.grant? h id subject).map Grant.usage)) s := by
  have done := Database.execute_of_fits (Shelf.perform_selectGrant sound h id subject) fits
  rw [Gives, findUsage, onServer_bind_of (Session.onServer_row? done)]
  cases s.grant? h id subject <;> rfl

theorem gives_getUserGrant (sound : s.Sound) (fits : s.Fits) (id : CouponId) (userId : UserId) :
    Gives (getUserGrant id userId) s
      (.ok ((s.grant? .user id userId.value).map fun g => ⟨id, userId, g.usage⟩)) s := by
  refine (onServer_bind_of (onServer_findUsage sound fits .user id userId.value) _).trans ?_
  cases s.grant? .user id userId.value <;> rfl

theorem gives_getProductGrant (sound : s.Sound) (fits : s.Fits) (id : CouponId)
    (productId : ProductId) :
    Gives (getProductGrant id productId) s
      (.ok ((s.grant? .product id productId.value).map fun g => ⟨id, productId, g.usage⟩)) s := by
  refine (onServer_bind_of (onServer_findUsage sound fits .product id productId.value) _).trans ?_
  cases s.grant? .product id productId.value <;> rfl

theorem mapM_readUsed (l : List (RedemptionRecord × Coupon)) :
    (l.map usedRow).mapM readUsed = .ok (l.map entry) := by
  induction l with
  | nil => rfl
  | cons p l ih =>
    rw [List.map_cons, List.mapM_cons, readUsed_usedRow, ih]
    rfl

theorem gives_listUsedByUser (sound : s.Sound) (fits : s.Fits) (userId : UserId) :
    Gives (listUsedByUser userId) s (.ok ((s.history userId).map entry)) s := by
  have done := Database.execute_of_fits (Shelf.perform_selectUses sound userId) fits
  rw [Gives, listUsedByUser, onServer_bind_of (Session.onServer_rows done)]
  show (((s.history userId).map usedRow).mapM readUsed, _) = _
  rw [mapM_readUsed]

/-! ## Redeeming -/

theorem onServer_insertRedemption (before : Option Database) {id : CouponId} {userId : UserId}
    {productId : Option ProductId} {time : Instant}
    (fits : (s.addUse (s.nextUse id userId productId time)).Fits) :
    onServer (insertRedemption id userId productId time) (.within before s.database) =
      (.ok (s.nextUse id userId productId time),
        .within before (s.addUse (s.nextUse id userId productId time)).database) := by
  have done := Database.execute_of_fits (s.perform_insertUse id userId productId time) fits
  rw [insertRedemption, onServer_bind_of (Session.onServer_row done rfl)]
  show (readUse (useRow (s.nextUse id userId productId time)), _) = _
  rw [readUse_useRow]
  rfl

section Redeem

variable {coupon : Coupon} {userId : UserId} {productId : Option ProductId} {time : Instant}
  {key : CounterKey}

/-- Both stores look for the counter of a redemption in the same place. -/
theorem of?_eq (scope : ScopeKind) (id : CouponId) (userId : UserId) (productId : Option ProductId) :
    CounterRow.of? scope id userId productId =
      (Ledger.counterKey scope id userId productId).toOption.map counterRow := by
  cases scope <;> cases productId <;> rfl

theorem gives_redeem_of_unnamed {e : StoreError}
    (unnamed : Ledger.counterKey coupon.scope coupon.id userId productId = .error e) :
    Gives (redeem coupon userId productId time) s (.error e) s := by
  have row : CounterRow.of? coupon.scope coupon.id userId productId = none := by
    rw [of?_eq, unnamed]
    rfl
  have reason : e = .missingSubject "product" := by
    revert unnamed
    cases coupon.scope <;> cases productId <;> intro unnamed <;> cases unnamed
    rfl
  have failed : onServer (writeRedemption coupon userId productId time)
      (.within (some s.database) s.database) = (.error e, .within (some s.database) s.database) := by
    rw [writeRedemption, row, reason]
    rfl
  exact Session.onServer_transaction_error .database failed rfl

section Named

variable (sound : s.Sound)
  (named : Ledger.counterKey coupon.scope coupon.id userId productId = .ok key)
include sound named

/-- The update of the counter, before what follows from how many rows it reports. -/
theorem onServer_writeRedemption (raised : (s.raise key time).Fits) (before : Option Database) :
    onServer (writeRedemption coupon userId productId time) (.within before s.database) =
      onServer
        (if (s.counter? key).any hasLeft then
          insertRedemption coupon.id userId productId time
        else do
          return .error (← explainRefusal (counterRow key) coupon userId productId))
        (.within before (s.raise key time).database) := by
  have row : CounterRow.of? coupon.scope coupon.id userId productId = some (counterRow key) := by
    rw [of?_eq, named]
    rfl
  have done := Database.execute_of_fits (Shelf.perform_raise sound key time) raised
  rw [writeRedemption, row]
  refine (onServer_bind_of (Session.onServer_affected done) _).trans ?_
  cases (s.counter? key).any hasLeft <;> rfl

/-- A redemption for which a use is left raises the counter and is recorded. -/
theorem gives_redeem (left : (s.counter? key).any hasLeft = true) (raised : (s.raise key time).Fits)
    (recorded : ((s.raise key time).addUse
      ((s.raise key time).nextUse coupon.id userId productId time)).Fits) :
    Gives (redeem coupon userId productId time) s
      (.ok ((s.raise key time).nextUse coupon.id userId productId time))
      ((s.raise key time).addUse ((s.raise key time).nextUse coupon.id userId productId time)) := by
  refine Session.onServer_transaction StoreError.database ?_
  rw [onServer_writeRedemption sound named raised, if_pos left]
  exact onServer_insertRedemption _ recorded

/-- A redemption for which no use is left is refused, since the counter is at its bound or since it
is missing. -/
theorem gives_redeem_of_none (fits : s.Fits) (none : (s.counter? key).any hasLeft = false) :
    Gives (redeem coupon userId productId time) s
      (.error (if s.hasRow key then .quotaExhausted coupon.id coupon.scope.name
        else missingCounter coupon.scope coupon.id userId productId)) s := by
  have unchanged : s.raise key time = s := Shelf.raise_of_none sound none time
  have probed := Database.execute_of_fits (s.perform_probe key) fits
  let why : StoreError :=
    if s.hasRow key then .quotaExhausted coupon.id coupon.scope.name
    else missingCounter coupon.scope coupon.id userId productId
  have explained : onServer (explainRefusal (counterRow key) coupon userId productId)
      (.within (some s.database) s.database) = (why, .within (some s.database) s.database) := by
    refine (onServer_bind_of (Session.onServer_value probed rfl) _).trans ?_
    simp only [why]
    cases s.hasRow key <;> rfl
  have failed : onServer (writeRedemption coupon userId productId time)
      (.within (some s.database) s.database) =
      (.error why, .within (some s.database) s.database) := by
    rw [onServer_writeRedemption sound named (unchanged.symm ▸ fits), unchanged, none]
    exact onServer_bind_of explained _
  exact Session.onServer_transaction_error .database failed rfl

end Named

end Redeem

end Calls

end Couponry.Sql
