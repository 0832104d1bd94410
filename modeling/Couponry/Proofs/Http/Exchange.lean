import Couponry.Proofs.Http.Address
import Couponry.Proofs.Http.Caller
import Couponry.Proofs.Wire.Faithful

/-!
# Requests and responses read back

What the client puts into the query or the body of a request is what the handler takes from it, and
what the handler puts into a response is what the client makes of it.
-/

namespace Couponry

open Couponry.Text

/-- The ids that a request asks about fit their words. -/
structure EligibilityRequest.Fits (request : EligibilityRequest) : Prop where
  userId : ∀ id ∈ request.userId, fitsInt64 id.value = true
  productId : ∀ id ∈ request.productId, fitsInt64 id.value = true

namespace Http

open Couponry.Json

/-! ## The query of a check -/

namespace Url

variable {u : Url}

/-- A pair as it stands in a query. -/
def pairChars (p : String × String) : List Char :=
  p.1.toList ++ '=' :: p.2.toList

/-- The URL with several more pairs. -/
def addPairs (u : Url) (ps : List (String × String)) : Url :=
  ps.foldl (fun u p => u.addPair p.1 p.2) u

theorem query_push (u : Url) (text : String) : (u.push text).query = u.query := by
  unfold push
  split <;> rfl

theorem query_addPair_of_none (plain : u.query = none) (p : String × String) :
    (u.addPair p.1 p.2).query = some (pairChars p) := by
  simp only [addPair, plain, pairChars]

theorem query_addPair_of_some {q : List Char} (asked : u.query = some q) (filled : q ≠ [])
    (p : String × String) : (u.addPair p.1 p.2).query = some (q ++ '&' :: pairChars p) := by
  cases q with
  | nil => exact absurd rfl filled
  | cons c cs => simp only [addPair, asked, pairChars]

theorem query_addPairs {q : List Char} (asked : u.query = some q) (filled : q ≠ [])
    (ps : List (String × String)) :
    (u.addPairs ps).query = some (q ++ ps.flatMap fun p => '&' :: pairChars p) := by
  induction ps generalizing u q with
  | nil => rw [List.flatMap_nil, List.append_nil, addPairs, List.foldl_nil, asked]
  | cons p ps ih =>
    have first := query_addPair_of_some asked filled p
    rw [addPairs, List.foldl_cons, ← addPairs,
      ih first (List.append_ne_nil_of_left_ne_nil filled _), List.flatMap_cons, List.append_assoc]

end Url

namespace Client

/-- What a check says of whether it counts. -/
def flag (request : EligibilityRequest) : String × String :=
  ("check_use", if request.enforce then "true" else "false")

/-- What else a check asks about. -/
def asked (request : EligibilityRequest) : List (String × String) :=
  (request.userId.toList.map fun id => ("user_id", id.display)) ++
    request.productId.toList.map fun id => ("product_id", id.display)

/-- The query of a check. -/
def question (request : EligibilityRequest) : List Char :=
  Url.pairChars (flag request) ++ (asked request).flatMap fun p => '&' :: Url.pairChars p

theorem checkUrl_eq (base : Url) (code : String) (request : EligibilityRequest) :
    checkUrl base code request =
      ((couponUrl base code).addPair (flag request).1 (flag request).2).addPairs (asked request) := by
  unfold checkUrl asked
  cases request.userId <;> cases request.productId <;> rfl

theorem query_checkUrl {base : Url} (plain : base.query = none) (code : String)
    (request : EligibilityRequest) :
    (checkUrl base code request).query = some (question request) := by
  have nothing : (couponUrl base code).query = none := by
    rw [couponUrl, Url.query_push, Url.query_push, plain]
  rw [checkUrl_eq, Url.query_addPairs (Url.query_addPair_of_none nothing _)
    (List.append_ne_nil_of_right_ne_nil _ (List.cons_ne_nil _ _)), question]

end Client

namespace Router

/-- A number needs no encoding in a query. -/
theorem plain_display {kind : IdKind} {name : List Char} (id : Id kind)
    (named : ∀ c ∈ name, c ≠ '%' ∧ c ≠ '+' ∧ c ≠ '&' ∧ c ≠ '#' ∧ c ≠ '=') :
    Form.Plain name id.display.toList where
  name := named
  value c member := by
    rw [Id.display, integer, String.toList_ofList] at member
    rcases of_mem_integerChars member with rfl | digit
    · decide
    · exact ⟨ne_of_isDigit digit (by decide), ne_of_isDigit digit (by decide),
        ne_of_isDigit digit (by decide), ne_of_isDigit digit (by decide)⟩

theorem queryId_display {kind : IdKind} {id : Id kind} (word : fitsInt64 id.value = true) :
    queryId id.display = some id := by
  rw [queryId, Id.display, integer, String.toList_ofList, readInt64_integerChars word]
  rfl

/-- No pair of a check needs encoding. -/
theorem plain_check (request : EligibilityRequest) :
    ∀ p ∈ Client.flag request :: Client.asked request, Form.Plain p.1.toList p.2.toList := by
  have clean : ["check_use", "user_id", "product_id", "true", "false"].all (fun word => word.toList.all
      fun c => decide (c ≠ '%' ∧ c ≠ '+' ∧ c ≠ '&' ∧ c ≠ '#' ∧ c ≠ '=')) = true := by decide
  have words : ∀ word ∈ ["check_use", "user_id", "product_id", "true", "false"], ∀ c ∈ word.toList,
      c ≠ '%' ∧ c ≠ '+' ∧ c ≠ '&' ∧ c ≠ '#' ∧ c ≠ '=' := fun word listed c member =>
    of_decide_eq_true (List.all_eq_true.1 (List.all_eq_true.1 clean word listed) c member)
  have value : ∀ word ∈ ["check_use", "user_id", "product_id", "true", "false"], ∀ c ∈ word.toList,
      c ≠ '%' ∧ c ≠ '+' ∧ c ≠ '&' ∧ c ≠ '#' := fun word listed c member =>
    let ⟨percent, plus, ampersand, hash, _⟩ := words word listed c member
    ⟨percent, plus, ampersand, hash⟩
  intro p member
  rcases List.mem_cons.1 member with rfl | later
  · refine ⟨words "check_use" (by decide), ?_⟩
    unfold Client.flag
    cases request.enforce with
    | true => exact value "true" (by decide)
    | false => exact value "false" (by decide)
  · rcases List.mem_append.1 later with user | product
    · obtain ⟨id, -, rfl⟩ := List.mem_map.1 user
      exact plain_display id (words "user_id" (by decide))
    · obtain ⟨id, -, rfl⟩ := List.mem_map.1 product
      exact plain_display id (words "product_id" (by decide))

/-- A check is not cut off by a fragment. -/
theorem whole_question (request : EligibilityRequest) : '#' ∉ Client.question request := by
  intro member
  rcases List.mem_append.1 member with first | later
  · exact (plain_check request _ List.mem_cons_self).whole first
  · obtain ⟨p, inside, within⟩ := List.mem_flatMap.1 later
    rcases List.mem_cons.1 within with separator | within
    · cases separator
    · exact (plain_check request p (List.mem_cons_of_mem _ inside)).whole within

/-- The pairs of a check. -/
theorem pairs_question (request : EligibilityRequest) :
    Form.pairs (Client.question request) =
      (Client.flag request :: Client.asked request).map fun p => (some p.1, some p.2) := by
  have plain : ∀ p ∈ (Client.flag request :: Client.asked request).map
      fun p => (p.1.toList, p.2.toList), Form.Plain p.1 p.2 := by
    intro p member
    obtain ⟨q, inside, rfl⟩ := List.mem_map.1 member
    exact plain_check request q inside
  have split := Form.pairs_join plain
  rw [List.flatMap_map] at split
  rw [Client.question]
  refine split.trans ?_
  rw [← List.map_cons (f := fun p : String × String => (p.1.toList, p.2.toList)), List.map_map]
  refine List.map_congr_left fun p _ => ?_
  simp only [Function.comp, String.ofList_toList]

/-- A parameter that is there once is read. -/
theorem queryParam_of_filter {α : Type} {parse : String → Option α} {name value : String}
    {pairs : List (Option String × Option String)} {a : α} (read : parse value = some a)
    (found : pairs.filter (fun p => p.1 == some name) = [(some name, some value)]) :
    queryParam parse name pairs = some (some a) := by
  rw [queryParam, found]
  simp only [read, Option.map_some]

theorem queryParam_of_filter_nil {α : Type} {parse : String → Option α} {name : String}
    {pairs : List (Option String × Option String)}
    (found : pairs.filter (fun p => p.1 == some name) = []) :
    queryParam parse name pairs = some none := by
  rw [queryParam, found]

/-- **The handler takes from the query what the client asked.** -/
theorem lookupQuery_question {request : EligibilityRequest} (fits : request.Fits) :
    lookupQuery (Client.question request) =
      .ok ⟨request.enforce, request.userId, request.productId⟩ := by
  obtain ⟨user, product, enforce⟩ := request
  have flag : readBool (if enforce then "true" else "false") = some enforce := by
    cases enforce <;> decide
  have check : queryParam readBool "check_use" (Form.pairs (Client.question ⟨user, product, enforce⟩)) =
      some (some enforce) := by
    rw [pairs_question]
    refine queryParam_of_filter flag ?_
    cases user <;> cases product <;> rfl
  have ofUser : queryParam queryId "user_id" (Form.pairs (Client.question ⟨user, product, enforce⟩)) =
      some user := by
    rw [pairs_question]
    cases user with
    | none => cases product <;> exact queryParam_of_filter_nil rfl
    | some id =>
      refine queryParam_of_filter (queryId_display (fits.userId id rfl)) ?_
      cases product <;> rfl
  have ofProduct : queryParam queryId "product_id"
      (Form.pairs (Client.question ⟨user, product, enforce⟩)) = some product := by
    rw [pairs_question]
    cases product with
    | none => cases user <;> exact queryParam_of_filter_nil rfl
    | some id =>
      refine queryParam_of_filter (queryId_display (fits.productId id rfl)) ?_
      cases user <;> rfl
  simp only [lookupQuery, check, ofUser, ofProduct]
  rfl

/-- The query of the request that the client sends. -/
theorem query_checkRequest {base : Url} (bare : base.Bare) (plain : base.query = none) (code : String)
    (request : EligibilityRequest) :
    (Client.checkRequest base code request).query = Client.question request := by
  have path := Client.path_checkUrl base code request
  have sealed : (Client.checkUrl base code request).Sealed := by
    rw [Url.Sealed, path]
    exact Client.couponUrl_sealed bare.sealed code
  have rooted : (Client.checkUrl base code request).path ≠ [] := by
    rw [path]
    exact Client.couponUrl_path_ne_nil base code
  exact sealed.query rooted rfl (Client.query_checkUrl plain code request) (whole_question request)

/-! ## The body of a redemption -/

/-- **The handler takes from the body what the client put there.** -/
theorem body_redeemRequest {base : Url} {caller : Identity} {code : String}
    {productId : Option ProductId} (word : ∀ id ∈ productId, fitsInt64 id.value = true) :
    body applyBody (Client.redeemRequest base caller code productId) = .ok productId := by
  have named : saysJson (Client.redeemRequest base caller code productId) = true := by
    have user : (Headers.fold Caller.userHeader == Headers.fold "content-type") = false := by decide
    have role : (Headers.fold Caller.roleHeader == Headers.fold "content-type") = false := by decide
    have readable : Headers.isReadable "application/json" = true := by decide
    have json : MediaType.isJson "application/json" = true := by decide
    have named : (Client.redeemRequest base caller code productId).headers.get? "content-type" =
        some "application/json" := by
      simp [Client.redeemRequest, Headers.get?, Caller.headers, user, role]
    rw [saysJson, Headers.text?, named, Option.filter_some, if_pos readable]
    exact json
  have product : Wire.Faithful 126 productId := Wire.faithful_id? word
  have fits : (Json.object [("product_id", Wire.write productId)]).fits Reading.maxDepth = true := by
    show fitsMembers 126 [("product_id", Wire.write productId)] = true
    rw [fitsMembers, product.fits]
    rfl
  have fields : (Wire.trailing? ProductId "product_id").Reads
      [("product_id", (Wire.write productId).reading)] productId := .defaulted product.reads
  have apart : ["product_id"].Nodup := by decide
  have read : applyBody (.object [(some "product_id", (Wire.write productId).reading)] true) =
      .ok productId := fields.read apart
  have whole : (Reading.Document.ofText (Client.redeemRequest base caller code productId).body).read
      applyBody = .ok productId := by
    rw [Client.redeemRequest, Reading.ofText_render fits, Reading.Document.read]
    exact congrArg (· >>= fun a => if true then Except.ok a else Except.error Fault.broken) read
  rw [body, named, if_pos rfl, whole]

end Router

/-! ## Responses -/

namespace Client

/-- A response with a JSON body is read as far as it says what it is. -/
theorem content_sent {r : Request} (read : r.method ≠ "HEAD") {status : Nat}
    (full : [101, 204, 304].contains status = false) (body : Json) :
    (Router.sent r (.json status body)).content = body.render := by
  have status' : (Router.sent r (.json status body)).status = status := rfl
  have body' : (Router.sent r (.json status body)).body = body.render := if_neg read
  rw [Response.content, status', full, body']
  rfl

/-- **A view that is sent is the view that arrives.** -/
theorem checkResult_sent (unread : Response → Option String) {r : Request} (read : r.method ≠ "HEAD")
    {view : CouponView} (fits : view.Fits) :
    checkResult unread (Router.sent r (.json 200 (Wire.write view))) = .ok view := by
  have faithful : Wire.Faithful Reading.maxDepth view := fits.faithful
  have arrives : Wire.ofText CouponView (Wire.write view).render = .ok view := faithful.ofText
  have success : (Router.sent r (.json 200 (Wire.write view))).isSuccess = true := rfl
  rw [checkResult, success, if_pos rfl, content_sent read (by decide), arrives]

/-- The body of a failure reads back. -/
theorem read_errorBody (e : ApiError) :
    (Reading.Document.ofText e.body.render).read (Wire.field String "error").read = .ok e.message := by
  have fits : e.body.fits Reading.maxDepth = true := rfl
  rw [Reading.ofText_render fits]
  rfl

/-- **A failure that is sent is the failure that arrives**, with its kind and its wording. -/
theorem failure_sent {r : Request} (read : r.method ≠ "HEAD") (e : ApiError) :
    (Router.sent r e.response).isSuccess = false ∧
      failure (Router.sent r e.response) = ⟨e.kind, e.message⟩ := by
  have status : (Router.sent r e.response).status = e.kind.status := rfl
  have full : [101, 204, 304].contains e.kind.status = false := by cases e.kind <;> rfl
  have content : (Router.sent r e.response).content = e.body.render := content_sent read full _
  constructor
  · rw [Response.isSuccess, status]
    cases e.kind <;> rfl
  · rw [failure, content]
    simp only [read_errorBody, status, ErrorKind.ofStatus_status]

end Client

end Http

end Couponry
