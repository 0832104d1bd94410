/-!
# Kinds of errors

The coarse class that every failure falls into. It is what crosses the boundary between components,
by its name in bodies and by its status over HTTP.
-/

namespace Couponry

/-- The class of a failure. -/
inductive ErrorKind where
  /-- The coupon code or the product does not exist. -/
  | notFound
  /-- The coupon exists but cannot be used now. -/
  | failedPrecondition
  /-- The caller is unknown or may not do this. -/
  | permissionDenied
  /-- The request is malformed. -/
  | invalidArgument
  /-- Anything else. -/
  | internal
  deriving DecidableEq, Repr

namespace ErrorKind

/-- The name of a kind. -/
def name : ErrorKind → String
  | .notFound => "not_found"
  | .failedPrecondition => "failed_precondition"
  | .permissionDenied => "permission_denied"
  | .invalidArgument => "invalid_argument"
  | .internal => "internal"

/-- The kinds. -/
def all : List ErrorKind :=
  [.notFound, .failedPrecondition, .permissionDenied, .invalidArgument, .internal]

/-- The HTTP status that tells of a kind. -/
def status : ErrorKind → Nat
  | .notFound => 404
  | .failedPrecondition => 412
  | .permissionDenied => 403
  | .invalidArgument => 400
  | .internal => 500

/-- The kind that an HTTP status tells of. -/
def ofStatus (status : Nat) : ErrorKind :=
  if status = 404 then .notFound
  else if status = 412 then .failedPrecondition
  else if status = 403 ∨ status = 401 then .permissionDenied
  else if status = 400 then .invalidArgument
  else .internal

theorem ofStatus_status (k : ErrorKind) : ofStatus k.status = k := by
  cases k <;> rfl

end ErrorKind

end Couponry
