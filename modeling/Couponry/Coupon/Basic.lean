import Couponry.Text.Blank
import Couponry.Discount
import Couponry.Id
import Couponry.Time.Instant

/-!
# Coupons

Coupons, the counters that limit their use, and the records of their redemption. A coupon is
limited as a whole, or for one user, or for one product; in the last two cases the counter is kept
in a grant for that user or product. `NewCoupon.fault?` says what is wrong with a coupon that is
to be created.
-/

namespace Couponry

open Couponry.Text

/-- What the use of a coupon is counted by. -/
inductive ScopeKind where
  /-- One counter in the coupon itself. -/
  | limited
  /-- One counter for each user that has a grant. -/
  | user
  /-- One counter for each product that has a grant. -/
  | product
  deriving DecidableEq, Repr

namespace ScopeKind

/-- The stored name of a scope. -/
def name : ScopeKind → String
  | .limited => "LIMITED"
  | .user => "USER"
  | .product => "PRODUCT"

/-- The scope with a stored name. -/
def ofName? : String → Option ScopeKind
  | "LIMITED" => some .limited
  | "USER" => some .user
  | "PRODUCT" => some .product
  | _ => none

/-- What is said of a name that no scope has. -/
def unknownText (s : String) : String :=
  s!"unknown coupon scope: {s}"

end ScopeKind

/-- The scope of a coupon that is to be created, with the subject of its grant. -/
inductive CouponScope where
  | limited
  | perUser (userId : UserId)
  | perProduct (productId : ProductId)
  deriving DecidableEq, Repr

/-- The scope without its subject. -/
def CouponScope.kind : CouponScope → ScopeKind
  | .limited => .limited
  | .perUser _ => .user
  | .perProduct _ => .product

/-- A counter: how many uses there have been, of how many. -/
structure Usage where
  used : Int
  total : Int
  deriving DecidableEq, Repr

namespace Usage

/-- A counter of `total` uses, none of them taken. -/
def fresh (total : Int) : Usage :=
  ⟨0, total⟩

/-- No use is left. -/
def isExhausted (u : Usage) : Bool :=
  decide (u.total ≤ u.used)

/-- The uses that are left. -/
def remaining (u : Usage) : Int :=
  max (u.total - u.used) 0

/-- The counter after one more use. -/
def bump (u : Usage) : Usage :=
  { u with used := u.used + 1 }

end Usage

/-- A stored coupon. -/
structure Coupon where
  id : CouponId
  code : String
  validFrom : Instant
  validTo : Instant
  discount : DiscountRule
  scope : ScopeKind
  /-- The counter, which only a limited coupon has. -/
  usage : Option Usage
  description : Option String
  imageUrl : Option String
  createdBy : UserId
  createdAt : Instant
  updatedAt : Option Instant
  deriving DecidableEq, Repr

/-- The coupon is valid at `now`: from the start of its window on, until before its end. -/
def Coupon.isActiveAt (c : Coupon) (now : Instant) : Bool :=
  decide (c.validFrom ≤ now ∧ now < c.validTo)

/-- A coupon that is to be created. -/
structure NewCoupon where
  code : String
  validFrom : Instant
  validTo : Instant
  discount : DiscountRule
  scope : CouponScope
  /-- How many uses the counter of the scope has. -/
  total : Int
  description : Option String
  imageUrl : Option String
  createdBy : UserId
  createdAt : Instant
  deriving DecidableEq, Repr

/-- What can be wrong with a coupon that is to be created. -/
inductive CouponFault where
  | blankCode
  | emptyWindow
  | badRule (fault : DiscountFault)
  | noUses (total : Int)
  deriving DecidableEq, Repr

/-- The wording of a fault. -/
def CouponFault.message : CouponFault → String
  | .blankCode => "code must not be empty"
  | .emptyWindow => "validity window must end after it starts"
  | .badRule fault => fault.message
  | .noUses total => s!"total must be positive, got {integer total}"

namespace NewCoupon

/-- The first thing that is wrong with the coupon, if anything is. -/
def fault? (c : NewCoupon) : Option CouponFault :=
  if allBlank c.code then some .blankCode
  else if c.validTo ≤ c.validFrom then some .emptyWindow
  else
    match DiscountRule.ofParts c.discount.kind c.discount.value with
    | .error fault => some (.badRule fault)
    | .ok _ => if c.total ≤ 0 then some (.noUses c.total) else none

/-- The coupon that is stored, once it has its id. -/
def stored (c : NewCoupon) (id : CouponId) : Coupon where
  id := id
  code := c.code
  validFrom := c.validFrom
  validTo := c.validTo
  discount := c.discount
  scope := c.scope.kind
  usage :=
    match c.scope with
    | .limited => some (.fresh c.total)
    | .perUser _ | .perProduct _ => none
  description := c.description
  imageUrl := c.imageUrl
  createdBy := c.createdBy
  createdAt := c.createdAt
  updatedAt := none

end NewCoupon

/-- The counter of a coupon for one user. -/
structure UserGrant where
  couponId : CouponId
  userId : UserId
  usage : Usage
  deriving DecidableEq, Repr

/-- The counter of a coupon for one product. -/
structure ProductGrant where
  couponId : CouponId
  productId : ProductId
  usage : Usage
  deriving DecidableEq, Repr

/-- One use of a coupon. -/
structure RedemptionRecord where
  id : Int
  couponId : CouponId
  userId : UserId
  productId : Option ProductId
  redeemedAt : Instant
  deriving DecidableEq, Repr

/-- One use of a coupon as its user sees it. -/
structure UsedCoupon where
  code : String
  description : Option String
  imageUrl : Option String
  appliedAt : Instant
  deriving DecidableEq, Repr

end Couponry
