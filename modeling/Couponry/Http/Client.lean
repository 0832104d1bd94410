import Couponry.Http.Caller
import Couponry.Http.Url
import Couponry.Purchase.Saga
import Couponry.Wire.Coupon

/-!
# The coupon client over HTTP

The coupon component at a distance: each call is one request to its API, and the status of the
response carries the kind of a failure back. Codes are pushed as one segment of the path; the three
codes that no segment can carry are refused before anything is sent.
-/

namespace Couponry.Http

/-- Words, and after them what a library says of an error of its own, where that is told. -/
def withCause (words : String) (cause : Option String) : String :=
  match cause with
  | none => words
  | some text => words ++ ": " ++ text

/-- Why no response came, with what the library says of it. -/
inductive TransportError where
  | timedOut (cause : Option String := none)
  | unreachable (cause : Option String := none)
  deriving DecidableEq, Repr

/-- The wording of a transport error. -/
def TransportError.message : TransportError → String
  | .timedOut cause => withCause "coupon service timed out" cause
  | .unreachable cause => withCause "coupon service unreachable" cause

/-- The calls of a client: requests that are sent. -/
def NetworkCalls : Signature where
  Call := Request
  Answer _ := Except TransportError Response

namespace Client

/-- Sends a request. -/
def send (r : Request) : Program NetworkCalls (Except TransportError Response) :=
  Program.call (S := NetworkCalls) r

/-- What arrives of a response that is the last thing a server sends. A status has three digits. One
below 200 announces a response that never comes, but for 101, which ends the exchange. -/
def arrived (r : Response) : Except TransportError Response :=
  if r.status = 101 ∨ 200 ≤ r.status ∧ r.status ≤ 999 then .ok r else .error .unreachable

/-- The URL of a service, unless the text is none. -/
def base (text : String) : Except ClientError Url :=
  match Url.parse text with
  | some u => .ok u
  | none => .error (.internal s!"invalid coupon service url: {text}")

/-- No segment of a path can carry the code. -/
def isMalformed (code : String) : Bool :=
  code == "" || code == "." || code == ".."

/-- The failure of a call with such a code. -/
def malformed (code : String) : ClientError :=
  ⟨.invalidArgument, s!"malformed coupon code: \"{code}\""⟩

/-- The URL of a coupon. -/
def couponUrl (base : Url) (code : String) : Url :=
  (Url.push { base with path := Url.popIfEmpty base.path } "coupons").push code

/-- The failure that a response tells of. -/
def failure (r : Response) : ClientError :=
  let body : Json.Record String := Wire.field String "error"
  match (Json.Reading.Document.ofText r.content).read body.read with
  | .ok message => ⟨.ofStatus r.status, message⟩
  | .error _ => ⟨.ofStatus r.status, "coupon service responded with an unreadable error body"⟩

/-- The request that checks a coupon. -/
def checkRequest (base : Url) (code : String) (request : EligibilityRequest) : Request :=
  let u := (couponUrl base code).addPair "check_use" (if request.enforce then "true" else "false")
  let u :=
    match request.userId with
    | some id => u.addPair "user_id" id.display
    | none => u
  let u :=
    match request.productId with
    | some id => u.addPair "product_id" id.display
    | none => u
  ⟨"GET", u.target, [], ""⟩

/-- What the library says of a response that cannot be read, if it is not told. -/
def untold (_ : Response) : Option String :=
  none

/-- What a response to a check says. -/
def checkResult (unread : Response → Option String) (r : Response) : Except ClientError CouponView :=
  if r.isSuccess then
    match Wire.ofText CouponView r.content with
    | .ok view => .ok view
    | .error _ => .error (.internal (withCause "invalid coupon response" (unread r)))
  else .error (failure r)

/-- The request that redeems a coupon. -/
def redeemRequest (base : Url) (caller : Identity) (code : String) (productId : Option ProductId) :
    Request :=
  ⟨"POST", ((couponUrl base code).push "apply").target,
    Caller.headers caller ++ [("content-type", "application/json")],
    (Json.object [("product_id", Wire.write productId)]).render⟩

/-- What a response to a redemption says. -/
def redeemResult (r : Response) : Except ClientError Unit :=
  if r.isSuccess then .ok () else .error (failure r)

/-- Sends a request and reads the response. -/
def exchange {α : Type} (r : Request) (result : Response → Except ClientError α) :
    Program NetworkCalls (Except ClientError α) := do
  match ← send r with
  | .ok response => return result response
  | .error e => return .error (.internal e.message)

/-- Answers a call to the coupon component by a request to its API. -/
def answer (base : Url) (c : ClientCall) (unread : Response → Option String := untold) :
    Program NetworkCalls c.Answer :=
  match c with
  | .check code request =>
    if isMalformed code then return .error (malformed code)
    else exchange (checkRequest base code request) (checkResult unread)
  | .redeem caller code productId =>
    if isMalformed code then return .error (malformed code)
    else exchange (redeemRequest base caller code productId) redeemResult

end Client

end Couponry.Http
