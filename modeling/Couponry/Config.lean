import Couponry.Text.Blank
import Couponry.Text.Numeral

/-!
# Configuration

The settings of the server, from named values. A value that is missing or cannot be read gives way
to its default.
-/

namespace Couponry

open Couponry.Text

/-- How the log is written. -/
inductive LogFormat where
  | text
  | json
  deriving DecidableEq, Repr

/-- `json` in any case, else `text`. -/
def LogFormat.ofText (s : String) : LogFormat :=
  if s.toList.map Char.toLower = "json".toList then .json else .text

/-- The settings of the server. -/
structure Config where
  host : String
  port : Nat
  logLevel : String
  logFormat : LogFormat
  /-- Where the database is; without it the stores are in memory. -/
  databaseUrl : Option String
  databaseMaxConnections : Nat
  /-- Where the coupon component is; without it it is in this process. -/
  couponServiceUrl : Option String
  couponClientTimeoutMs : Nat
  deriving DecidableEq, Repr

namespace Config

/-- The defaults. -/
def default : Config where
  host := "0.0.0.0"
  port := 3000
  logLevel := "info"
  logFormat := .text
  databaseUrl := none
  databaseMaxConnections := 10
  couponServiceUrl := none
  couponClientTimeoutMs := 5000

/-- A number below `bound`, or the default. -/
def number (bound : Nat) (value : Option String) (default : Nat) : Nat :=
  (value.bind fun s => readBelow bound s.toList).getD default

/-- A value that is not blank. -/
def nonBlank (value : Option String) : Option String :=
  value.filter fun s => !allBlank s

/-- The settings that named values give. -/
def ofLookup (look : String → Option String) : Config where
  host := (look "HOST").getD default.host
  port := number (2 ^ 16) (look "PORT") default.port
  logLevel := (look "RUST_LOG").getD default.logLevel
  logFormat := ((look "LOG_FORMAT").map LogFormat.ofText).getD default.logFormat
  databaseUrl := nonBlank (look "DATABASE_URL")
  databaseMaxConnections :=
    number (2 ^ 32) (look "DATABASE_MAX_CONNECTIONS") default.databaseMaxConnections
  couponServiceUrl := nonBlank (look "COUPON_SERVICE_URL")
  couponClientTimeoutMs :=
    number (2 ^ 64) (look "COUPON_CLIENT_TIMEOUT_MS") default.couponClientTimeoutMs

/-- The address to listen on. -/
def address (c : Config) : String :=
  s!"{c.host}:{integer c.port}"

end Config

end Couponry
