import Couponry.Http.Api
import Couponry.Http.Caller
import Couponry.Http.Exposition
import Couponry.Http.MediaType
import Couponry.Http.Route
import Couponry.Wire.Coupon
import Couponry.Wire.Purchase

/-!
# The router

One request in, one response out. A handler first takes what it needs from the request, in a fixed
order: the caller, the parameter of the path, then the query or the body; the first that cannot be
had decides the response. Any page may be read from any origin.
-/

namespace Couponry.Http.Router

open Couponry.Text Couponry.Json

/-! ## What a request holds -/

/-- The parameter of a path as a text. -/
def textParam (segment : List Char) : Except Response String :=
  match Percent.decode segment with
  | some s => .ok s
  | none => .error (.text 400 "the path cannot be read")

/-- The parameter of a path as a number. -/
def idParam (segment : List Char) : Except Response Int := do
  let s ← textParam segment
  match readInt64 s.toList with
  | some n => .ok n
  | none => .error (.text 400 "the path needs a number")

/-- The body says that it is JSON. -/
def saysJson (r : Request) : Bool :=
  match r.headers.text? "content-type" with
  | some value => MediaType.isJson value
  | none => false

/-- The body as a value of a type. -/
def body {α : Type} (d : Decoder α) (r : Request) : Except Response α :=
  if saysJson r then
    match (Reading.Document.ofText r.body).read d with
    | .ok a => .ok a
    | .error .broken => .error (.text 400 "the body is no JSON")
    | .error .misfit => .error (.text 422 "the body has the wrong shape")
  else .error (.text 415 "the body must be JSON")

/-- The query of a look-up. -/
structure LookupQuery where
  checkUse : Bool
  userId : Option UserId
  productId : Option ProductId
  deriving DecidableEq, Repr

/-- `true` or `false`. -/
def readBool (s : String) : Option Bool :=
  if s = "true" then some true else if s = "false" then some false else none

/-- The value of a parameter of a query, if it is there. Twice is once too often. -/
def queryParam {α : Type} (parse : String → Option α) (name : String)
    (pairs : List (Option String × Option String)) : Option (Option α) :=
  match pairs.filter fun p => p.1 == some name with
  | [] => some none
  | [(_, some value)] => (parse value).map some
  | _ => none

/-- A number in a query. -/
def queryId {kind : IdKind} (s : String) : Option (Id kind) :=
  (readInt64 s.toList).map Id.mk

/-- Reads the query of a look-up. -/
def lookupQuery (query : List Char) : Except Response LookupQuery :=
  let pairs := Form.pairs query
  let params := do
    let checkUse ← queryParam readBool "check_use" pairs
    let userId ← queryParam queryId "user_id" pairs
    let productId ← queryParam queryId "product_id" pairs
    return ⟨checkUse.getD false, userId, productId⟩
  match params with
  | some q => .ok q
  | none => .error (.text 400 "the query cannot be read")

/-- The body of an application. -/
def applyBody : Decoder (Option ProductId) :=
  (Wire.trailing? ProductId "product_id").read

/-- The body of a purchase. -/
def purchaseBody : Decoder (Option String) :=
  (Wire.trailing? String "coupon").read

/-- A request for a new product. -/
structure NewProduct where
  name : String
  priceCents : Int
  deriving DecidableEq, Repr

/-- The body of a request for a new product. -/
def productBody : Decoder NewProduct :=
  (NewProduct.mk <$> Wire.field String "name" <*> Wire.field Int "price_cents" :
    Record NewProduct).read

/-! ## Handlers -/

/-- Goes on with what was taken from the request, or answers that it cannot be had. -/
def given {α : Type} (taken : Except Response α) (next : α → ApiProgram Response) :
    ApiProgram Response :=
  match taken with
  | .ok a => next a
  | .error response => return response

/-- Goes on with the caller, or refuses. -/
def withCaller (r : Request) (next : Identity → ApiProgram Response) : ApiProgram Response :=
  match Caller.ofHeaders r.headers with
  | .ok caller => next caller
  | .error e => Api.fail e

/-- The program is alive. -/
def health : Response :=
  .json 200 (.object [("status", .text "ok"), ("version", .text "0.1.0")])

/-- The counters. -/
def metrics : ApiProgram Response := do
  let counters ← Api.host .counters
  return ⟨200, [("content-type", Exposition.contentType)], Exposition.render counters⟩

/-- Creates a coupon. -/
def createCoupon (r : Request) : ApiProgram Response :=
  withCaller r fun caller =>
    given (body (Wire.read (α := CreateCoupon)) r) fun request => do
      match ← Api.service (Service.createCoupon caller request) with
      | .ok created => return .json 201 (Wire.write created)
      | .error e => Api.fail (.coupon e)

/-- Deletes a coupon, which is given by its id. -/
def deleteCoupon (r : Request) (segment : List Char) : ApiProgram Response :=
  withCaller r fun caller =>
    given (idParam segment) fun id => do
      match ← Api.service (Service.deleteCoupon caller ⟨id⟩) with
      | .ok () => return .empty 204
      | .error e => Api.fail (.coupon e)

/-- Looks a coupon up. -/
def retrieveCoupon (r : Request) (segment : List Char) : ApiProgram Response :=
  given (textParam segment) fun code =>
    given (lookupQuery r.query) fun q => do
      match ← Api.service (Service.retrieveCoupon code ⟨q.userId, q.productId, q.checkUse⟩) with
      | .ok view => return .json 200 (Wire.write view)
      | .error e => Api.fail (.coupon e)

/-- Applies a coupon for the caller. -/
def applyCoupon (r : Request) (segment : List Char) : ApiProgram Response :=
  withCaller r fun caller =>
    given (textParam segment) fun code =>
      given (body applyBody r) fun productId => do
        match ← Api.service (Service.applyCoupon caller code productId) with
        | .ok _ => return .empty 204
        | .error e => Api.fail (.coupon e)

/-- Lists the coupons that the caller has used. -/
def listUsed (r : Request) : ApiProgram Response :=
  withCaller r fun caller => do
    match ← Api.service (Service.listUsed caller) with
    | .ok used => return .json 200 (Wire.write used)
    | .error e => Api.fail (.coupon e)

/-- Adds a product. -/
def createProduct (r : Request) : ApiProgram Response :=
  withCaller r fun caller =>
    given (body productBody r) fun p => do
      if !caller.isAdmin then Api.fail (.permissionDenied "user doesn't have permission")
      else if allBlank p.name || decide (p.priceCents < 0) then
        Api.fail (.badRequest "product needs a name and a non-negative price")
      else
        let now ← Api.host .now
        match ← Api.products (.createProduct (trim p.name) ⟨p.priceCents⟩ now) with
        | .ok product => return .json 201 (Wire.write (α := Product) product)
        | .error e => Api.fail (.products e)

/-- A coupon code without blanks around it, if anything is left. -/
def givenCode (coupon : Option String) : Option String :=
  (coupon.map trim).filter fun code => code != ""

/-- Buys a product for the caller. -/
def purchase (r : Request) (segment : List Char) : ApiProgram Response :=
  withCaller r fun caller =>
    given (idParam segment) fun id =>
      given (body purchaseBody r) fun coupon => do
        match ← Api.saga (Saga.purchase caller ⟨id⟩ (givenCode coupon)) with
        | .ok record => return .json 201 (Wire.write record)
        | .error e => Api.fail (.purchase e)

/-! ## Dispatch -/

/-- The response of a route to a method that it has. -/
def handle (r : Request) (method : String) : Route → ApiProgram Response
  | .health => return health
  | .metrics => metrics
  | .coupons => createCoupon r
  | .used => listUsed r
  | .coupon segment =>
    if method = "DELETE" then deleteCoupon r segment else retrieveCoupon r segment
  | .apply segment => applyCoupon r segment
  | .products => createProduct r
  | .purchase segment => purchase r segment

/-- The headers that let any origin read a response. -/
def anyOrigin : Headers :=
  [("vary", "origin, access-control-request-method, access-control-request-headers"),
    ("access-control-allow-origin", "*")]

/-- The answer to a browser that asks what it may do. -/
def preflight : Response :=
  ⟨200, [("access-control-allow-methods", "*"), ("access-control-allow-headers", "*")], ""⟩

/-- The header that names the methods of a route. -/
def allow (route : Route) : Headers :=
  [("allow", String.intercalate "," route.methods)]

/-- The response of a route, if there is one, before headers are added that every response has. A
request whose method the route lacks is told the methods that it has. -/
def dispatch (r : Request) (route : Option Route) : ApiProgram Response := do
  match route with
  | none => return if r.method = "OPTIONS" then preflight else .empty 404
  | some route =>
    if route.methods.contains r.method then handle r r.method route
    else if r.method = "OPTIONS" then
      return { preflight with headers := preflight.headers ++ allow route }
    else return ⟨405, allow route, ""⟩

/-- The response as it is sent: its size is told, and a `HEAD` request does not get the body. -/
def sent (r : Request) (response : Response) : Response where
  status := response.status
  headers :=
    response.headers ++
      ("content-length", String.ofList (digits response.body.utf8ByteSize)) :: anyOrigin
  body := if r.method = "HEAD" then "" else response.body

/-- Answers a request. -/
def respond (r : Request) : ApiProgram Response := do
  return sent r (← dispatch r (Route.ofPath r.path))

end Couponry.Http.Router
