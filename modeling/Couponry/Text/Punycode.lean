/-!
# Punycode

Text in letters, digits and hyphens that stands for any text. What stands before the last hyphen is
kept, and what follows inserts the other characters in the order of their code points: each number
says how far the next insertion lies from the one before, in steps that run through the places of
the text and then go on to the next code point. A number is written in base 36 with the lowest digit
first, and a digit below a threshold ends it. The thresholds adapt to the numbers before.
-/

namespace Couponry.Text.Punycode

/-- The value of a digit: letters come before digits. -/
def digit? (c : Char) : Option Nat :=
  if 'a' ≤ c ∧ c ≤ 'z' then some (c.toNat - 97)
  else if 'A' ≤ c ∧ c ≤ 'Z' then some (c.toNat - 65)
  else if '0' ≤ c ∧ c ≤ '9' then some (c.toNat - 48 + 26)
  else none

/-- The threshold of the digit at a position, where positions count in steps of 36. -/
def threshold (bias position : Nat) : Nat :=
  if position ≤ bias then 1 else if bias + 26 ≤ position then 26 else position - bias

/-- The bias that fits numbers of the size of `delta`, and `steps` to begin with. -/
def settle (delta steps : Nat) : Nat :=
  if h : 455 < delta then settle (delta / 35) (steps + 36) else steps + 36 * delta / (delta + 38)
termination_by delta
decreasing_by omega

/-- The bias after a number, with as many characters as there are now. -/
def adapt (delta length : Nat) (first : Bool) : Nat :=
  let delta := if first then delta / 700 else delta / 2
  settle (delta + delta / length) 0

/-- A decoding on its way. -/
structure Decoding where
  text : List Char
  /-- The code point of the next insertion. -/
  code : Nat := 128
  /-- The place of the next insertion. -/
  place : Nat := 0
  bias : Nat := 72
  /-- The number that is being read is worth this so far. -/
  delta : Nat := 0
  weight : Nat := 1
  position : Nat := 36
  first : Bool := true
  deriving DecidableEq, Repr

namespace Decoding

/-- Inserts a character, as the number that has been read says. -/
def insert (s : Decoding) (delta : Nat) : Option Decoding :=
  let length := s.text.length + 1
  let total := s.place + delta
  let code := s.code + total / length
  if code.isValidChar then
    some
      { text := s.text.insertIdx (total % length) (Char.ofNat code), code := code,
        place := total % length + 1, bias := adapt delta length s.first, first := false }
  else none

/-- Reads one more digit. The weight of the next one must fit in 32 bits. -/
def push (s : Decoding) (c : Char) : Option Decoding :=
  match digit? c with
  | none => none
  | some d =>
    let t := threshold s.bias s.position
    let delta := s.delta + d * s.weight
    if d < t then s.insert delta
    else if s.weight * (36 - t) < 2 ^ 32 then
      some { s with delta := delta, weight := s.weight * (36 - t), position := s.position + 36 }
    else none

end Decoding

/-- The text up to its last hyphen, and what follows. A hyphen in front is no separator. -/
def split (cs : List Char) : List Char × List Char :=
  let tail := (cs.reverse.takeWhile (· != '-')).reverse
  let kept := cs.take (cs.length - tail.length - 1)
  if kept.isEmpty then ([], cs) else (kept, tail)

/-- The text that a text in Punycode stands for. -/
def decode (cs : List Char) : Option (List Char) :=
  let (kept, rest) := split cs
  match rest.foldlM Decoding.push { text := kept } with
  | some s => if s.position = 36 then some s.text else none
  | none => none

end Couponry.Text.Punycode
