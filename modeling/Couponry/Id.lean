import Couponry.Text.Numeral

/-!
# Identifiers

Numbers that identify coupons, users and products. The kinds cannot be confused with one another.
-/

namespace Couponry

/-- What an identifier identifies. -/
inductive IdKind where
  | coupon
  | user
  | product
  deriving DecidableEq, Repr

/-- The identifier of a thing of some kind. -/
structure Id (kind : IdKind) where
  value : Int
  deriving DecidableEq, Repr

/-- Identifies a coupon, as the store that holds it assigns it. -/
abbrev CouponId : Type := Id .coupon

/-- Identifies a user, as the keeper of identities issues it. -/
abbrev UserId : Type := Id .user

/-- Identifies a product. -/
abbrev ProductId : Type := Id .product

namespace Id

variable {kind : IdKind}

/-- The number in decimal. -/
def display (id : Id kind) : String :=
  Text.integer id.value

end Id

end Couponry
