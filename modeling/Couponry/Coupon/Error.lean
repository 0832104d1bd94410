import Couponry.Coupon.Basic
import Couponry.Database
import Couponry.ErrorKind

/-!
# Errors about coupons

What the store of coupons fails with, and what the coupon component makes of it. Every error has one
kind; `CouponError.ofStore` says which errors of the store are the caller's and which are internal.
-/

namespace Couponry

open Couponry.Text

/-- A failure of the store of coupons. -/
inductive StoreError where
  | couponNotFound (code : String)
  | couponIdNotFound (id : CouponId)
  | duplicateCode (code : String)
  /-- The counter of the scope has no use left. -/
  | quotaExhausted (couponId : CouponId) (scope : String)
  /-- A coupon with a subject has no grant for it. Grants are written with their coupon, so either
  the subject is another one or the store is inconsistent. -/
  | grantNotFound (couponId : CouponId) (subject : String)
  /-- The redemption lacks what the scope counts by. -/
  | missingSubject (subject : String)
  | invalidCoupon (message : String)
  /-- What is stored is no coupon. -/
  | corrupt (message : String)
  | database (error : DatabaseError)
  | migration (error : MigrationError)
  deriving DecidableEq, Repr

/-- The name of a failure. -/
def StoreError.name : StoreError → String
  | .couponNotFound _ => "CouponNotFound"
  | .couponIdNotFound _ => "CouponIdNotFound"
  | .duplicateCode _ => "DuplicateCode"
  | .quotaExhausted _ _ => "QuotaExhausted"
  | .grantNotFound _ _ => "GrantNotFound"
  | .missingSubject _ => "MissingSubject"
  | .invalidCoupon _ => "InvalidCoupon"
  | .corrupt _ => "Corrupt"
  | .database _ => "Database"
  | .migration _ => "Migration"

/-- The wording of a failure. -/
def StoreError.message : StoreError → String
  | .couponNotFound code => s!"Coupon not found: {code}"
  | .couponIdNotFound id => s!"Coupon not found: id {id.display}"
  | .duplicateCode code => s!"Coupon code already exists: {code}"
  | .quotaExhausted id scope => s!"Coupon {id.display} has no remaining uses for {scope}"
  | .grantNotFound id subject => s!"Missing grant for coupon {id.display} and {subject}"
  | .missingSubject subject =>
    s!"Redemption of a {subject}-scoped coupon requires a {subject} id"
  | .invalidCoupon message => s!"Invalid coupon: {message}"
  | .corrupt message => s!"Corrupt row: {message}"
  | .database error => s!"Database error: {error.message}"
  | .migration error => s!"Migration error: {error.message}"

/-- A failure of the coupon component. -/
inductive CouponError where
  | notFound (what : String)
  | failedPrecondition (why : String)
  | permissionDenied (why : String)
  | invalidArgument (why : String)
  | internal (why : String)
  deriving DecidableEq, Repr

namespace CouponError

/-- The kind of a failure. -/
def kind : CouponError → ErrorKind
  | .notFound _ => .notFound
  | .failedPrecondition _ => .failedPrecondition
  | .permissionDenied _ => .permissionDenied
  | .invalidArgument _ => .invalidArgument
  | .internal _ => .internal

/-- The wording of a failure. -/
def message : CouponError → String
  | .notFound what => s!"coupon not found: {what}"
  | .failedPrecondition why => s!"unable to apply this coupon: {why}"
  | .permissionDenied why => s!"permission denied: {why}"
  | .invalidArgument why => s!"invalid argument: {why}"
  | .internal why => s!"internal error: {why}"

/-- A missing coupon, an exhausted counter, and a bad request are the caller's; all else is ours. -/
def ofStore : StoreError → CouponError
  | .couponNotFound code => .notFound code
  | .couponIdNotFound id => .notFound s!"id {id.display}"
  | e@(.quotaExhausted _ _) => .failedPrecondition e.message
  | e@(.missingSubject _) | e@(.invalidCoupon _) => .invalidArgument e.message
  | e => .internal e.message

/-- The failure of a coupon that is to be created. -/
def ofFault (fault : CouponFault) : CouponError :=
  ofStore (.invalidCoupon fault.message)

end CouponError

end Couponry
