import Couponry.Proofs.Http.Target

/-!
# Which coupon a request addresses

The route of a request for a coupon is that of the text which arrives of its code. The text is the
code itself unless a line break or a tab vanishes from it, and the route is that of a coupon unless
the text is a place, or names the history of a caller.
-/

namespace Couponry.Http

open Couponry.Text

namespace Router

/-- The request looks up the coupon with the code. -/
def LooksUp (r : Request) (code : String) : Prop :=
  ∃ segment, Route.ofPath r.path = some (.coupon segment) ∧
    dispatch r (Route.ofPath r.path) = retrieveCoupon r segment ∧ textParam segment = .ok code

/-- The request applies the coupon with the code. -/
def Applies (r : Request) (code : String) : Prop :=
  ∃ segment, Route.ofPath r.path = some (.apply segment) ∧
    dispatch r (Route.ofPath r.path) = applyCoupon r segment ∧ textParam segment = .ok code

section Dispatch

variable {r : Request} {segment : List Char}

theorem dispatch_coupon (method : r.method = "GET") :
    dispatch r (some (.coupon segment)) = retrieveCoupon r segment := by
  simp [dispatch, Route.methods, handle, method]

theorem dispatch_apply (method : r.method = "POST") :
    dispatch r (some (.apply segment)) = applyCoupon r segment := by
  simp [dispatch, Route.methods, handle, method]

end Dispatch

theorem textParam_segmentOf (text : String) : textParam (Url.segmentOf text) = .ok text := by
  rw [textParam, Url.decode_segmentOf]

end Router

namespace Client

open Url

section Segments

variable {code : String}

theorem ne_of_isMalformed (taken : isMalformed code = false) :
    code ≠ "" ∧ code ≠ "." ∧ code ≠ ".." := by
  simpa [isMalformed, and_assoc] using taken

variable {base : Url} (bare : base.Bare)
include bare

theorem path_coupons : (Url.push { base with path := popIfEmpty base.path } "coupons").path =
    [segmentOf "coupons"] := by
  have named : arriving "coupons" = "coupons" := by decide
  rcases bare with none | empty
  · simp [Url.push, none, popIfEmpty, pushSegment_eq, named]
  · simp [Url.push, empty, popIfEmpty, pushSegment_eq, named]

/-- Where a coupon is, by the text that arrives of its code. -/
theorem path_couponUrl (taken : isMalformed code = false) : (couponUrl base code).path =
    if arriving code = ".." then [[]]
    else if arriving code = "." then [segmentOf "coupons", []]
    else [segmentOf "coupons", segmentOf (arriving code)] := by
  obtain ⟨-, one, two⟩ := ne_of_isMalformed taken
  have notEmpty : [segmentOf "coupons"] ≠ [[]] := by decide
  have nothingAbove : above [segmentOf "coupons"] = [] := by decide
  rw [couponUrl, Url.push, if_neg (not_or.2 ⟨one, two⟩)]
  simp only [path_coupons bare, pushSegment_eq, if_neg notEmpty, nothingAbove, List.nil_append,
    List.singleton_append]

end Segments

/-- The place of a coupon is split by the router as it is. -/
theorem couponUrl_sealed {base : Url} (h : base.Sealed) (code : String) :
    (couponUrl base code).Sealed := by
  have popped : Url.Sealed { base with path := popIfEmpty base.path } := by
    intro segment inside
    refine h segment ?_
    unfold popIfEmpty at inside
    split at inside
    · exact (List.dropLast_sublist _).subset inside
    · exact inside
  exact (popped.push "coupons").push code

theorem couponUrl_path_ne_nil (base : Url) (code : String) : (couponUrl base code).path ≠ [] := by
  have first : (Url.push { base with path := popIfEmpty base.path } "coupons").path ≠ [] := by
    rw [Url.push, if_neg (by decide)]
    exact pushSegment_ne_nil (popIfEmpty base.path) "coupons"
  rw [couponUrl, Url.push]
  split
  · exact first
  · exact pushSegment_ne_nil _ _


/-- The URL of a check: the coupon with the question about it. -/
def checkUrl (base : Url) (code : String) (request : EligibilityRequest) : Url :=
  let u := (couponUrl base code).addPair "check_use" (if request.enforce then "true" else "false")
  let u :=
    match request.userId with
    | some id => u.addPair "user_id" id.display
    | none => u
  match request.productId with
  | some id => u.addPair "product_id" id.display
  | none => u

theorem path_checkUrl (base : Url) (code : String) (request : EligibilityRequest) :
    (checkUrl base code request).path = (couponUrl base code).path := by
  unfold checkUrl
  cases request.userId <;> cases request.productId <;> rfl

/-! ## Routes -/

section Routes

variable {code : String} {base : Url} (bare : base.Bare) (taken : isMalformed code = false)
include bare taken

/-- The route of a check. -/
theorem route_checkRequest (request : EligibilityRequest) :
    Route.ofPath (checkRequest base code request).path =
      if arriving code = ".." ∨ arriving code = "." ∨ arriving code = "" then none
      else if arriving code = "used" then some .used
      else some (.coupon (segmentOf (arriving code))) := by
  have path := path_checkUrl base code request
  have sealed : (checkUrl base code request).Sealed := by
    rw [Sealed, path]
    exact couponUrl_sealed bare.sealed code
  have rooted : (checkUrl base code request).path ≠ [] := by
    rw [path]
    exact couponUrl_path_ne_nil base code
  have history : segmentOf "used" = "used".toList := by decide
  have blank : segmentOf "" = [] := by decide
  have used : segmentOf (arriving code) = "used".toList ↔ arriving code = "used" :=
    ⟨fun h => segmentOf_injective (h.trans history.symm), fun h => by rw [h, history]⟩
  have nothing : (segmentOf (arriving code)).isEmpty = true ↔ arriving code = "" := by
    rw [List.isEmpty_iff]
    exact ⟨fun h => segmentOf_injective (h.trans blank.symm), fun h => by rw [h, blank]⟩
  rw [sealed.route rooted (r := checkRequest base code request) rfl, path, path_couponUrl bare taken]
  by_cases two : arriving code = ".."
  · rw [if_pos two, if_pos (.inl two)]
    decide
  by_cases one : arriving code = "."
  · rw [if_neg two, if_pos one, if_pos (.inr (.inl one))]
    decide
  have coupons : segmentOf "coupons" = "coupons".toList := by decide
  rw [if_neg two, if_neg one, Route.ofSegments, if_pos coupons]
  simp only [used, nothing, two, one, false_or]
  by_cases history : arriving code = "used"
  · have some : arriving code ≠ "" := by rw [history]; decide
    rw [if_pos history, if_neg some, if_pos history]
  · simp only [if_neg history]

/-- The route of a redemption. -/
theorem route_redeemRequest (caller : Identity) (productId : Option ProductId) :
    Route.ofPath (redeemRequest base caller code productId).path =
      if arriving code = ".." then none
      else if arriving code = "." then some (.apply [])
      else some (.apply (segmentOf (arriving code))) := by
  have named : arriving "apply" = "apply" := by decide
  have path : ((couponUrl base code).push "apply").path =
      if arriving code = ".." then [segmentOf "apply"]
      else (couponUrl base code).path ++ [segmentOf "apply"] := by
    rw [Url.push, if_neg (by decide), pushSegment_eq, named, if_neg (by decide), if_neg (by decide),
      path_couponUrl bare taken]
    split
    · rfl
    · split <;> rfl
  have sealed : ((couponUrl base code).push "apply").Sealed :=
    (couponUrl_sealed bare.sealed code).push "apply"
  have rooted : ((couponUrl base code).push "apply").path ≠ [] := by
    rw [path]
    split
    · exact List.cons_ne_nil _ _
    · exact List.append_ne_nil_of_right_ne_nil _ (List.cons_ne_nil _ _)
  have coupons : segmentOf "coupons" = "coupons".toList := by decide
  have action : segmentOf "apply" = "apply".toList := by decide
  rw [sealed.route rooted (r := redeemRequest base caller code productId) rfl, path,
    path_couponUrl bare taken]
  by_cases two : arriving code = ".."
  · rw [if_pos two, if_pos two]
    decide
  by_cases one : arriving code = "."
  · rw [if_neg two, if_neg two, if_neg two, if_pos one, if_pos one]
    decide
  · rw [if_neg two, if_neg two, if_neg two, if_neg one, if_neg one]
    simp only [List.cons_append, List.nil_append, Route.ofSegments, coupons, action]
    rfl

/-- A check looks the coupon up, unless its code changes on the way or names the history. -/
theorem looksUp_iff (request : EligibilityRequest) :
    Router.LooksUp (checkRequest base code request) code ↔ Steady code ∧ code ≠ "used" := by
  obtain ⟨nonempty, one, two⟩ := ne_of_isMalformed taken
  rw [← arriving_eq_self_iff]
  have route := route_checkRequest bare taken request
  constructor
  · rintro ⟨segment, found, -, param⟩
    rw [route] at found
    split at found
    · cases found
    · split at found
      · cases found
      · next history =>
        cases found
        rw [Router.textParam_segmentOf] at param
        have same : arriving code = code := Except.ok.inj param
        rw [same] at history
        exact ⟨same, history⟩
  · rintro ⟨same, history⟩
    have place : ¬ (arriving code = ".." ∨ arriving code = "." ∨ arriving code = "") := by
      rw [same]
      rintro (h | h | h)
      · exact two h
      · exact one h
      · exact nonempty h
    have notHistory : arriving code ≠ "used" := by rwa [same]
    rw [if_neg place, if_neg notHistory, same] at route
    refine ⟨segmentOf code, route, ?_, Router.textParam_segmentOf code⟩
    have method : (checkRequest base code request).method = "GET" := rfl
    rw [route, Router.dispatch_coupon method]

/-- A redemption applies the coupon, unless its code changes on the way. -/
theorem applies_iff (caller : Identity) (productId : Option ProductId) :
    Router.Applies (redeemRequest base caller code productId) code ↔ Steady code := by
  obtain ⟨nonempty, one, two⟩ := ne_of_isMalformed taken
  rw [← arriving_eq_self_iff]
  have route := route_redeemRequest bare taken caller productId
  constructor
  · rintro ⟨segment, found, -, param⟩
    rw [route] at found
    split at found
    · cases found
    · split at found
      · cases found
        have nothing : Router.textParam [] = .ok "" := Router.textParam_segmentOf ""
        rw [nothing] at param
        exact absurd (Except.ok.inj param).symm nonempty
      · cases found
        rw [Router.textParam_segmentOf] at param
        exact Except.ok.inj param
  · intro same
    have notTwo : arriving code ≠ ".." := by rwa [same]
    have notOne : arriving code ≠ "." := by rwa [same]
    rw [if_neg notTwo, if_neg notOne, same] at route
    refine ⟨segmentOf code, route, ?_, Router.textParam_segmentOf code⟩
    have method : (redeemRequest base caller code productId).method = "POST" := rfl
    rw [route, Router.dispatch_apply method]

end Routes

section Apart

variable {base : Url} {code other : String}

/-- The path of a request is read off its target. -/
theorem path_eq_of_target_eq {r r' : Request} (h : r.target = r'.target) : r.path = r'.path := by
  unfold Request.path Request.place
  rw [h]

variable (bare : base.Bare) (taken : isMalformed code = false) (steady : Steady code)
  (takenToo : isMalformed other = false) (steadyToo : Steady other)
include bare taken steady takenToo steadyToo

theorem code_eq_of_checkRequest {request request' : EligibilityRequest}
    (same : (checkRequest base code request).target = (checkRequest base other request').target) :
    code = other := by
  have route : ∀ {code : String} (request : EligibilityRequest), isMalformed code = false →
      Steady code → Route.ofPath (checkRequest base code request).path =
        if code = "used" then some .used else some (.coupon (segmentOf code)) := by
    intro code request taken steady
    obtain ⟨nonempty, one, two⟩ := ne_of_isMalformed taken
    have noPlace : ¬ (code = ".." ∨ code = "." ∨ code = "") := by
      rintro (h | h | h)
      · exact two h
      · exact one h
      · exact nonempty h
    rw [route_checkRequest bare taken, arriving_eq_self_iff.2 steady, if_neg noPlace]
  have routes := route request' takenToo steadyToo
  rw [← path_eq_of_target_eq same, route request taken steady] at routes
  split at routes
  · next used =>
    split at routes
    · next usedToo => rw [used, usedToo]
    · cases routes
  · split at routes
    · cases routes
    · exact segmentOf_injective (Route.coupon.inj (Option.some.inj routes))

theorem code_eq_of_redeemRequest {caller caller' : Identity} {productId productId' : Option ProductId}
    (same : (redeemRequest base caller code productId).target =
      (redeemRequest base caller' other productId').target) : code = other := by
  obtain ⟨segment, found, -, param⟩ := (applies_iff bare taken caller productId).2 steady
  obtain ⟨segment', found', -, param'⟩ := (applies_iff bare takenToo caller' productId').2 steadyToo
  rw [path_eq_of_target_eq same, found'] at found
  cases found
  rw [param'] at param
  exact (Except.ok.inj param).symm

end Apart

/-- **A request addresses exactly the coupon with the code**, if no character of the code vanishes
from a URL; only the check of the code `used` goes elsewhere. Requests for two such codes differ in
their targets. -/
theorem addressed_exactly {base : Url} {code : String} (bare : base.Bare)
    (taken : isMalformed code = false) :
    (∀ request, Router.LooksUp (checkRequest base code request) code ↔
      Steady code ∧ code ≠ "used") ∧
    (∀ caller productId, Router.Applies (redeemRequest base caller code productId) code ↔
      Steady code) ∧
    ∀ other, isMalformed other = false → other ≠ code → Steady code → Steady other →
      (∀ request request', (checkRequest base code request).target ≠
        (checkRequest base other request').target) ∧
      ∀ caller caller' productId productId', (redeemRequest base caller code productId).target ≠
        (redeemRequest base caller' other productId').target := by
  refine ⟨looksUp_iff bare taken, applies_iff bare taken, ?_⟩
  intro other takenToo apart steady steadyToo
  constructor
  · intro request request' same
    exact apart (code_eq_of_checkRequest bare taken steady takenToo steadyToo same).symm
  · intro caller caller' productId productId' same
    exact apart (code_eq_of_redeemRequest bare taken steady takenToo steadyToo same).symm

/-- A code with a slash, a percent sign and the marks of a query and a fragment is addressed. -/
theorem addressed_exactly_reserved :
    Url.Bare ⟨[[]], none⟩ ∧ isMalformed "SPRING/../50%?a#b" = false ∧
    Router.LooksUp (checkRequest ⟨[[]], none⟩ "SPRING/../50%?a#b" .lookup) "SPRING/../50%?a#b" := by
  have bare : Url.Bare ⟨[[]], none⟩ := .inr rfl
  have taken : isMalformed "SPRING/../50%?a#b" = false := by decide
  have steady : Steady "SPRING/../50%?a#b" := by decide
  exact ⟨bare, taken, ((addressed_exactly bare taken).1 .lookup).2 ⟨steady, by decide⟩⟩

/-- The check of the coupon `used` asks for the history of a caller, and a code with a tab in it leads
to the coupon without the tab. -/
theorem addressed_elsewhere :
    (isMalformed "used" = false ∧
      Route.ofPath (checkRequest ⟨[[]], none⟩ "used" .lookup).path = some .used ∧
      ¬ Router.LooksUp (checkRequest ⟨[[]], none⟩ "used" .lookup) "used") ∧
    isMalformed "A\tB" = false ∧
      Router.LooksUp (checkRequest ⟨[[]], none⟩ "A\tB" .lookup) "AB" ∧
      (checkRequest ⟨[[]], none⟩ "A\tB" .lookup).target =
        (checkRequest ⟨[[]], none⟩ "AB" .lookup).target := by
  have bare : Url.Bare ⟨[[]], none⟩ := .inr rfl
  have used : isMalformed "used" = false := by decide
  have tab : isMalformed "A\tB" = false := by decide
  have without : isMalformed "AB" = false := by decide
  have steady : Steady "AB" := by decide
  have same : (checkRequest ⟨[[]], none⟩ "A\tB" .lookup).target =
      (checkRequest ⟨[[]], none⟩ "AB" .lookup).target := by decide
  refine ⟨⟨used, ?_, ?_⟩, tab, ?_, same⟩
  · rw [route_checkRequest bare used]
    decide
  · rw [looksUp_iff bare used]
    exact fun h => h.2 rfl
  · obtain ⟨segment, found, goes, param⟩ := (looksUp_iff bare without .lookup).2 ⟨steady, by decide⟩
    have path := path_eq_of_target_eq same
    refine ⟨segment, path ▸ found, ?_, param⟩
    rw [path, found, Router.dispatch_coupon rfl]

end Client

end Couponry.Http
