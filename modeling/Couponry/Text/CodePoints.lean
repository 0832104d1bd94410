import Couponry.Text.Form

/-!
# Tables of code points

Properties of characters stand in tables that are written as text: words between blanks, each a
code point or a range of them in hexadecimal, in increasing order, and some with more behind an
equals sign. The tables speak of characters that can stand in domain names; their ranges may run
over others.
-/

namespace Couponry.Text.CodePoints

/-- The number that hexadecimal digits stand for. -/
def number (cs : List Char) : Nat :=
  cs.foldl (fun n c => n * 16 + (Percent.hexValue c).getD 0) 0

/-- The words of a table. -/
def words (lines : List String) : List (List Char) :=
  lines.flatMap fun line => Form.splitOn ' ' line.toList

/-- A word up to a separator, and what stands behind it. -/
def splitAt (separator : Char) (word : List Char) : List Char × List Char :=
  (word.takeWhile (· != separator), (word.dropWhile (· != separator)).drop 1)

/-- Code points from a first to a last one. -/
structure Range where
  first : Nat
  last : Nat
  deriving DecidableEq, Repr

/-- The character lies in the range. -/
def Range.has (r : Range) (c : Char) : Bool :=
  decide (r.first ≤ c.toNat ∧ c.toNat ≤ r.last)

/-- The range of a word such as `300-36F` or `37A`. -/
def Range.ofWord (word : List Char) : Range :=
  match splitAt '-' word with
  | (first, []) => ⟨number first, number first⟩
  | (first, last) => ⟨number first, number last⟩

/-- The ranges of a table. -/
def ranges (lines : List String) : List Range :=
  (words lines).map Range.ofWord

/-- The ranges of a table, each with its value. -/
def labelled {α : Type} (value : List Char → α) (lines : List String) : List (Range × α) :=
  (words lines).map fun word =>
    let (range, label) := splitAt '=' word
    (Range.ofWord range, value label)

/-- The character lies in one of the ranges. -/
def contains (ranges : List Range) (c : Char) : Bool :=
  ranges.any fun r => r.has c

/-- The value of the range that the character lies in. -/
def lookup {α : Type} (table : List (Range × α)) (c : Char) : Option α :=
  (table.find? fun e => e.1.has c).map Prod.snd

end Couponry.Text.CodePoints
