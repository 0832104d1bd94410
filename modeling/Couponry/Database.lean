import Couponry.Text.Numeral

/-!
# Failures of a database

What a statement can fail with, whatever it was for.
-/

namespace Couponry

open Couponry.Text

/-- What a server says when it refuses a statement. -/
structure ServerError where
  code : String
  message : String
  /-- The constraint that the statement would have violated. -/
  violated : Option String
  deriving DecidableEq, Repr

/-- A failure of the database. -/
inductive DatabaseError where
  | poolTimedOut
  | poolClosed
  | rowNotFound
  /-- No connection to the server could be made. -/
  | unreachable
  | refused (error : ServerError)
  /-- A column that is missing, of another type, or null where a value is needed. -/
  | badColumn (name : String)
  deriving DecidableEq, Repr

/-- The wording of a failure. -/
def DatabaseError.message : DatabaseError → String
  | .poolTimedOut => "pool timed out while waiting for an open connection"
  | .poolClosed => "attempted to acquire a connection on a closed pool"
  | .rowNotFound => "no rows returned by a query that expected to return at least one row"
  | .unreachable => "the database server cannot be reached"
  | .refused error => s!"error returned from database: {error.message}"
  | .badColumn name => s!"column {name} cannot be read"

/-- A change of the schema that was made before, and that nobody knows any more. -/
structure MigrationError where
  version : Int
  deriving DecidableEq, Repr

/-- The wording of a migration error. -/
def MigrationError.message (e : MigrationError) : String :=
  s!"migration {integer e.version} was previously applied but is missing in the resolved migrations"

end Couponry
