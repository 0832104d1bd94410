import Couponry.Journal
import Couponry.Program

/-!
# The host

What every component needs of its surroundings: the time, chance, and a place for its observations.
-/

namespace Couponry

/-- One of the 36 characters that the random part of a code is made of. -/
abbrev Letter : Type := Fin 36

/-- A call to the host. -/
inductive HostCall where
  | now
  /-- A letter, drawn evenly. -/
  | letter
  | note (o : Observation)
  /-- The counters that were raised so far, with how often. -/
  | counters
  deriving DecidableEq, Repr

/-- What the host answers. -/
def HostCall.Answer : HostCall → Type
  | .now => Instant
  | .letter => Letter
  | .note _ => Unit
  | .counters => List (Counter × Nat)

end Couponry
