import Couponry.Text.Percent

/-!
# Form-encoded queries

A query is a list of pairs: names and values between ampersands, percent-encoded, with plus signs
for spaces. Empty pairs are skipped, and a name alone has the empty value.
-/

namespace Couponry.Text.Form

/-- The parts of a text between the separators. -/
def splitOn (separator : Char) : List Char → List (List Char)
  | [] => [[]]
  | c :: rest =>
    if c = separator then [] :: splitOn separator rest
    else
      match splitOn separator rest with
      | part :: parts => (c :: part) :: parts
      | [] => [[c]]

/-- What a part of a pair stands for. `none` is a text that no parameter has. -/
def decode (cs : List Char) : Option String :=
  Percent.decode (cs.map fun c => if c = '+' then ' ' else c)

/-- The pair that a non-empty part of a query stands for. -/
def pair (cs : List Char) : Option String × Option String :=
  (decode (cs.takeWhile (· != '=')), decode ((cs.dropWhile (· != '=')).drop 1))

/-- The pairs of a query, in order. -/
def pairs (query : List Char) : List (Option String × Option String) :=
  ((splitOn '&' query).filter fun part => !part.isEmpty).map pair

end Couponry.Text.Form
