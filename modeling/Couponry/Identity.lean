import Couponry.Id

/-!
# Callers

Who calls, and in what role. Administration is for admins and super admins.
-/

namespace Couponry

/-- The role of a verified caller. -/
inductive Role where
  | user
  | admin
  | superAdmin
  deriving DecidableEq, Repr

namespace Role

/-- The name of a role. -/
def name : Role → String
  | .user => "user"
  | .admin => "admin"
  | .superAdmin => "super_admin"

/-- The roles. -/
def all : List Role :=
  [.user, .admin, .superAdmin]

/-- The role with a name. -/
def ofName? (s : String) : Option Role :=
  all.find? fun r => r.name == s

/-- What is said of a name that no role has. -/
def unknownText (s : String) : String :=
  s!"unknown role: {s}"

theorem ofName?_name (r : Role) : ofName? r.name = some r := by
  cases r <;> decide

end Role

/-- A verified caller. -/
structure Identity where
  userId : UserId
  role : Role
  deriving DecidableEq, Repr

namespace Identity

/-- The caller may administer coupons and products. -/
def isAdmin (caller : Identity) : Bool :=
  match caller.role with
  | .admin | .superAdmin => true
  | .user => false

theorem isAdmin_iff {caller : Identity} :
    caller.isAdmin = true ↔ caller.role = .admin ∨ caller.role = .superAdmin := by
  cases role : caller.role <;> simp [isAdmin, role]

end Identity

end Couponry
