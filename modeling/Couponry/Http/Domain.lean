import Couponry.Http.DomainMapping
import Couponry.Text.Direction
import Couponry.Text.Joining
import Couponry.Text.NormalForm
import Couponry.Text.Punycode

/-!
# Domain names

Domain names in any script. A name is mapped to small letters and normalized; a label that starts
with `xn--` is the Punycode of another one, which it must be the only spelling of. A label must not
begin with a mark or misplace a joiner, and beside text from right to left it keeps to one
direction.
-/

namespace Couponry.Http.Domain

open Couponry.Text

/-- The character is one of ASCII. -/
def isAscii (c : Char) : Bool :=
  decide (c.toNat < 0x80)

/-- What a label starts with that is the Punycode of another. -/
def marker : List Char :=
  "xn--".toList

/-- The longest text in Punycode that is read. -/
def maxPunycode : Nat := 2000

/-- The longest label beyond ASCII. -/
def maxLabel : Nat := 1000

/-- A label that is the only spelling of itself. -/
def isCanonical (label : List Char) : Bool :=
  label.all (fun c => DomainMapping.ofChar c == some [c]) && normalize label == label

/-- The label that a label in Punycode stands for. It has a character beyond ASCII, so its Punycode
does not end with the hyphen behind those that are kept. -/
def decodeLabel (code : List Char) : Option (List Char) :=
  if code.all isAscii && decide (code.length ≤ maxPunycode) && code.getLast?.any (· != '-') then
    (Punycode.decode code).filter isCanonical
  else none

/-- The label that a mapped label stands for. -/
def resolveLabel (label : List Char) : Option (List Char) :=
  if marker.isPrefixOf label then decodeLabel (label.drop marker.length) else some label

/-- A label is well formed by itself. -/
def labelFits (label : List Char) : Bool :=
  !(label.head?.any isMark) && Joining.fits label &&
    (label.all isAscii || decide (label.length ≤ maxLabel))

/-- A name in ASCII without Punycode, which needs no mapping but to small letters. -/
def isPlain (labels : List (List Char)) : Bool :=
  labels.all fun label => label.all isAscii && !marker.isPrefixOf (label.map Char.toLower)

/-- The labels of a name in any script, if it is well formed. -/
def resolve (name : List Char) : Option (List (List Char)) := do
  let mapped ← DomainMapping.ofText name
  let labels ← (Form.splitOn '.' (normalize mapped)).mapM resolveLabel
  if labels.all labelFits && (!(labels.any Direction.turnsIn) || labels.all Direction.fits) then
    some labels
  else none

/-- The labels of a name, between its full stops, in small letters and with their Punycode decoded.
There are none for a name that is not well formed. -/
def labels? (name : List Char) : Option (List (List Char)) :=
  let parts := Form.splitOn '.' name
  if isPlain parts then some (parts.map fun label => label.map Char.toLower) else resolve name

end Couponry.Http.Domain
