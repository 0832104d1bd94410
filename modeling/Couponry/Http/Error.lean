import Couponry.Http.Message
import Couponry.Purchase.Error
import Couponry.Wire.Basic

/-!
# Errors over HTTP

Every failure of a handler is told by a status, which carries its kind, and a body with the kind and
the wording.
-/

namespace Couponry.Http

/-- A failure of a handler. -/
inductive ApiError where
  | coupon (e : CouponError)
  | purchase (e : PurchaseError)
  | products (e : ProductStoreError)
  | permissionDenied (why : String)
  | badRequest (why : String)
  deriving DecidableEq, Repr

namespace ApiError

/-- The kind of a failure. -/
def kind : ApiError → ErrorKind
  | .coupon e => e.kind
  | .purchase e => e.kind
  | .products (.productNotFound _) => .notFound
  | .products _ => .internal
  | .permissionDenied _ => .permissionDenied
  | .badRequest _ => .invalidArgument

/-- The wording of a failure. -/
def message : ApiError → String
  | .coupon e => e.message
  | .purchase e => e.message
  | .products e => e.message
  | .permissionDenied why | .badRequest why => why

/-- The body that tells of a failure. -/
def body (e : ApiError) : Json :=
  .object [("error", .text e.message), ("kind", Wire.write e.kind)]

/-- The response that tells of a failure. -/
def response (e : ApiError) : Response :=
  .json e.kind.status e.body

end ApiError

end Couponry.Http
