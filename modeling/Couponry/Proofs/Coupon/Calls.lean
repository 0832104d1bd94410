import Couponry.Coupon.Service
import Couponry.Proofs.Program.Only

/-!
# What the service asks for

The calls that an operation of the coupon service may make, whatever it is answered. To look something up
it only reads; whoever creates, deletes or redeems has nothing else done than that.
-/

namespace Couponry

open Program

/-- The call to the store of coupons only reads. -/
def StoreCall.Reads : StoreCall → Prop
  | .getByCode _ | .getUserGrant _ _ | .getProductGrant _ _ | .listUsedByUser _ => True
  | .createCoupon _ | .deleteCoupon _ | .insertRedemption _ _ _ _ | .redeem _ _ _ _ => False

namespace CouponCall

/-- The call of the coupon component only reads, or makes an observation other than of a redemption that is
left behind. -/
def Quiet : CouponCall → Prop
  | .store c => c.Reads
  | .host c => c ≠ .note (.count .orphanedRedemptions)

/-- The call creates the coupon that the caller asks for, under some code. -/
def Creates (caller : Identity) (request : CreateCoupon) : CouponCall → Prop
  | .store c => ∃ code now, c = .createCoupon (request.toNewCoupon code caller.userId now)
  | .host _ => True

/-- The call deletes the coupon. -/
def Deletes (id : CouponId) : CouponCall → Prop
  | .store c => c = .deleteCoupon id
  | .host _ => True

/-- The call reads, or takes a use for the user. -/
def Redeems (userId : UserId) : CouponCall → Prop
  | .store c => c.Reads ∨ ∃ coupon productId time, c = .redeem coupon userId productId time
  | .host _ => True

end CouponCall

/-! ## Looking up -/

theorem quiet_log (e : Event) : (CouponProgram.log e).Only CouponCall.Quiet :=
  ⟨nofun, fun _ => trivial⟩

theorem quiet_count {c : Counter} (other : c ≠ .orphanedRedemptions) :
    (CouponProgram.count c).Only CouponCall.Quiet := by
  refine ⟨?_, fun _ => trivial⟩
  rintro same
  cases same
  exact other rfl

theorem quiet_getByCode (code : String) :
    (CouponProgram.store (.getByCode code)).Only CouponCall.Quiet :=
  ⟨trivial, fun _ => trivial⟩

theorem quiet_getUserGrant (id : CouponId) (userId : UserId) :
    (CouponProgram.store (.getUserGrant id userId)).Only CouponCall.Quiet :=
  ⟨trivial, fun _ => trivial⟩

theorem quiet_getProductGrant (id : CouponId) (productId : ProductId) :
    (CouponProgram.store (.getProductGrant id productId)).Only CouponCall.Quiet :=
  ⟨trivial, fun _ => trivial⟩

theorem quiet_scopeUsage (c : Coupon) (request : EligibilityRequest) :
    (Eligibility.scopeUsage c request).Only CouponCall.Quiet := by
  unfold Eligibility.scopeUsage
  cases c.scope with
  | limited => trivial
  | user =>
    cases request.userId with
    | none => trivial
    | some userId =>
      exact (quiet_getUserGrant _ _).bind fun answer => by rcases answer with _ | _ | _ <;> trivial
  | product =>
    cases request.productId with
    | none => trivial
    | some productId =>
      exact (quiet_getProductGrant _ _).bind fun answer => by rcases answer with _ | _ | _ <;> trivial

theorem quiet_shownUsage (c : Coupon) (request : EligibilityRequest) :
    (Eligibility.shownUsage c request).Only CouponCall.Quiet := by
  unfold Eligibility.shownUsage
  split
  · trivial
  · exact (quiet_getUserGrant _ _).bind fun answer => by cases answer <;> trivial
  · exact (quiet_getProductGrant _ _).bind fun answer => by cases answer <;> trivial
  · trivial

theorem quiet_checkFound (c : Coupon) (code : String) (request : EligibilityRequest) (now : Instant) :
    (Eligibility.checkFound c code request now).Only CouponCall.Quiet := by
  unfold Eligibility.checkFound
  split
  · exact (quiet_shownUsage c request).bind fun usage => by cases usage <;> trivial
  · split
    · exact (quiet_log _).bind fun _ => trivial
    · refine (quiet_scopeUsage c request).bind fun usage => ?_
      cases usage with
      | error e => trivial
      | ok usage =>
        dsimp only
        split
        · exact (quiet_log _).bind fun _ => trivial
        · trivial

theorem quiet_check (code : String) (request : EligibilityRequest) (now : Instant) :
    (Eligibility.check code request now).Only CouponCall.Quiet := by
  refine (quiet_getByCode code).bind fun found => ?_
  cases found with
  | error e => trivial
  | ok c => exact quiet_checkFound c code request now

/-- Looking a coupon up is quiet. -/
theorem quiet_retrieveCoupon (code : String) (request : EligibilityRequest) :
    (Service.retrieveCoupon code request).Only CouponCall.Quiet := by
  refine ⟨nofun, fun now => (quiet_check code request now).bind fun view => ?_⟩
  cases view with
  | error e => trivial
  | ok view =>
    dsimp only
    split
    · exact ⟨nofun, fun _ => trivial⟩
    · trivial

/-- Listing the coupons that a caller has used is quiet. -/
theorem quiet_listUsed (caller : Identity) : (Service.listUsed caller).Only CouponCall.Quiet := by
  refine ⟨trivial, fun used => ?_⟩
  cases used <;> trivial

/-! ## Creating, deleting and redeeming -/

section Creating

variable {caller : Identity} {request : CreateCoupon}

theorem creates_draw (n : Nat) : (Code.draw n).Only (CouponCall.Creates caller request) := by
  induction n with
  | zero => trivial
  | succ n ih => exact ⟨trivial, fun _ => ih.bind fun _ => trivial⟩

theorem creates_generate (start : String) (now : Instant) :
    (Code.generate start now).Only (CouponCall.Creates caller request) :=
  (creates_draw Code.suffixLength).bind fun _ => trivial

/-- Every code that is tried is one for the coupon that was asked for. -/
theorem creates_tryCodes (now created : Instant) (left : Nat) (code : String) :
    (Service.tryCodes now left (request.toNewCoupon code caller.userId created)).Only
      (CouponCall.Creates caller request) := by
  induction left generalizing code with
  | zero => trivial
  | succ left ih =>
    refine ⟨⟨code, created, rfl⟩, fun answer => ?_⟩
    rcases answer with e | id
    · cases e with
      | duplicateCode taken => exact ⟨trivial, fun _ => (creates_generate _ now).bind fun code => ih code⟩
      | _ => trivial
    · exact ⟨trivial, fun _ => ⟨trivial, fun _ => trivial⟩⟩

theorem creates_createCoupon (caller : Identity) (request : CreateCoupon) :
    (Service.createCoupon caller request).Only (CouponCall.Creates caller request) := by
  unfold Service.createCoupon
  split
  · trivial
  · refine ⟨trivial, fun now => (creates_generate _ now).bind fun code => ?_⟩
    dsimp only
    split
    · trivial
    · exact creates_tryCodes now now _ code

end Creating

/-- Who is no admin is refused before anything is asked for. -/
theorem createCoupon_of_not_isAdmin {caller : Identity} (plain : caller.isAdmin = false)
    (request : CreateCoupon) : Service.createCoupon caller request = return .error Service.notAdmin := by
  rw [Service.createCoupon, plain]
  rfl

theorem deleteCoupon_of_not_isAdmin {caller : Identity} (plain : caller.isAdmin = false) (id : CouponId) :
    Service.deleteCoupon caller id = return .error Service.notAdmin := by
  rw [Service.deleteCoupon, plain]
  rfl

theorem deletes_deleteCoupon (caller : Identity) (id : CouponId) :
    (Service.deleteCoupon caller id).Only (CouponCall.Deletes id) := by
  unfold Service.deleteCoupon
  split
  · trivial
  · refine ⟨rfl, fun answer => ?_⟩
    cases answer with
    | error e => trivial
    | ok _ => exact ⟨trivial, fun _ => trivial⟩

theorem redeems_applyFound (coupon : Coupon) (caller : Identity) (code : String)
    (productId : Option ProductId) :
    (Service.applyFound coupon caller code productId).Only (CouponCall.Redeems caller.userId) := by
  refine Only.bind (p := CouponProgram.now) ⟨trivial, fun _ => trivial⟩ fun now => ?_
  split
  · exact ⟨trivial, fun _ => trivial⟩
  · refine ⟨.inr ⟨coupon, productId, now, rfl⟩, fun answer => ?_⟩
    cases answer <;> exact ⟨trivial, fun _ => ⟨trivial, fun _ => trivial⟩⟩

theorem redeems_applyCoupon (caller : Identity) (code : String) (productId : Option ProductId) :
    (Service.applyCoupon caller code productId).Only (CouponCall.Redeems caller.userId) := by
  refine ⟨.inl trivial, fun found => ?_⟩
  cases found with
  | error e => trivial
  | ok coupon => exact redeems_applyFound coupon caller code productId

end Couponry
