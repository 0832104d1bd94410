import Couponry.Text.CombiningClass
import Couponry.Text.Composite

/-!
# The composed normal form

One spelling for texts that look the same: composites are taken apart, marks are put in the order of
their classes, and what can be composed is.
-/

namespace Couponry.Text.NormalForm

/-- How many marks a composite has at most. -/
def maxMarks : Nat := 3

/-- A character taken apart, where it has no more than `marks` marks. -/
def partsOf (marks : Nat) (c : Char) : List Char :=
  match marks, Composite.parts? c with
  | marks + 1, some (a, b) => partsOf marks a ++ [b]
  | _, _ => [c]

/-- A text with all composites taken apart. -/
def decompose (cs : List Char) : List Char :=
  cs.flatMap (partsOf maxMarks)

/-- Puts a character in front of an ordered text: it passes the marks of lower classes. -/
def place (c : Char) : List Char → List Char
  | [] => [c]
  | d :: rest =>
    if 0 < combiningClass d ∧ combiningClass d < combiningClass c then d :: place c rest
    else c :: d :: rest

/-- A text with its marks in order. -/
def arrange (cs : List Char) : List Char :=
  cs.foldr place []

/-- A composition on its way: what is finished, last first; the character that marks may be composed
with; and the marks since then that could not be, last first. -/
structure Composition where
  done : List Char
  base : Option Char
  marks : List Char
  deriving DecidableEq, Repr

namespace Composition

/-- All of it, last first. -/
def all (s : Composition) : List Char :=
  s.marks ++ s.base.toList ++ s.done

/-- A mark is hidden from the base by one of its class or a higher one before it. -/
def hides (s : Composition) (c : Char) : Bool :=
  match s.marks with
  | [] => false
  | m :: _ => decide (combiningClass c ≤ combiningClass m)

/-- One more character. -/
def push (s : Composition) (c : Char) : Composition :=
  match s.base.bind fun b => if s.hides c then none else Composite.join? b c with
  | some joined => { s with base := some joined }
  | none =>
    if combiningClass c = 0 then ⟨s.all, some c, []⟩ else { s with marks := c :: s.marks }

end Composition

/-- A text with all that can be composed. -/
def compose (cs : List Char) : List Char :=
  (cs.foldl Composition.push ⟨[], none, []⟩).all.reverse

end NormalForm

/-- The composed normal form of a text. -/
def normalize (cs : List Char) : List Char :=
  NormalForm.compose (NormalForm.arrange (NormalForm.decompose cs))

end Couponry.Text
