import Couponry.Text.Form
import Couponry.Text.Percent

/-!
# Routes

Which paths there are. A path is split at its slashes before anything is decoded, so an encoded
slash stays within its segment. A parameter may be empty between two slashes, but not at the end;
the history of a caller goes before the coupon of that name.
-/

namespace Couponry.Http

open Couponry.Text

/-- A path of the API, with its parameter as it is encoded. -/
inductive Route where
  | health
  | metrics
  | coupons
  | used
  | coupon (code : List Char)
  | apply (code : List Char)
  | products
  | purchase (id : List Char)
  deriving DecidableEq, Repr

namespace Route

/-- The route of the segments of a path. -/
def ofSegments (segments : List (List Char)) : Option Route :=
  match segments with
  | [a] =>
    if a = "health".toList then some .health
    else if a = "metrics".toList then some .metrics
    else if a = "coupons".toList then some .coupons
    else if a = "products".toList then some .products
    else none
  | [a, b] =>
    if a = "coupons".toList then
      if b = "used".toList then some .used else if b.isEmpty then none else some (.coupon b)
    else none
  | [a, b, c] =>
    if a = "coupons".toList ∧ c = "apply".toList then some (.apply b)
    else if a = "products".toList ∧ c = "purchase".toList then some (.purchase b)
    else none
  | _ => none

/-- The route of a path. -/
def ofPath (path : List Char) : Option Route :=
  match path with
  | '/' :: rest => ofSegments (Form.splitOn '/' rest)
  | _ => none

/-- The methods that a route answers to, beside `OPTIONS`. -/
def methods : Route → List String
  | .health | .metrics | .used => ["GET", "HEAD"]
  | .coupon _ => ["GET", "HEAD", "DELETE"]
  | .coupons | .apply _ | .products | .purchase _ => ["POST"]

end Route

end Couponry.Http
