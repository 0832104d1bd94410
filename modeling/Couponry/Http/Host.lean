import Couponry.Http.Domain

/-!
# Hosts

Which texts may stand for a host in a URL: domain names without forbidden characters, numbers that
are IPv4 addresses, and IPv6 addresses in brackets.
-/

namespace Couponry.Http.HostName

open Couponry.Text

/-- A character that no host has. -/
def isForbidden (c : Char) : Bool :=
  decide (c.toNat = 0) || " \t\n\r#/:<>?@[\\]^|".toList.contains c

/-- A character that no name of a host has. -/
def isForbiddenInName (c : Char) : Bool :=
  isForbidden c || decide (c.toNat < 0x20) || c == '%' || c == '\x7f'

/-- The digits of a number and its base: `0x` marks base 16 and a zero in front base 8. -/
def numberParts (cs : List Char) : List Char × Nat :=
  match cs with
  | '0' :: 'x' :: rest | '0' :: 'X' :: rest => (rest, 16)
  | '0' :: c :: rest => (c :: rest, 8)
  | _ => (cs, 10)

/-- The value of a number in an address. -/
def number (cs : List Char) : Option Nat :=
  if cs.isEmpty then none
  else
    let (ds, base) := numberParts cs
    ds.foldl (fun acc c => do
      let n ← acc
      let d ← Percent.hexValue c
      if d < base then some (n * base + d) else none) (some 0)

/-- A part that makes the whole host a number. -/
def isNumeric (cs : List Char) : Bool :=
  !cs.isEmpty && (cs.all Char.isDigit || (numberParts cs).2 == 16 && (number cs).isSome)

/-- The parts of a host without the empty one behind a point at its end. -/
def withoutRoot (parts : List (List Char)) : List (List Char) :=
  if parts.length > 1 ∧ parts.getLast? = some [] then parts.dropLast else parts

/-- Numbers that make up an IPv4 address: the last one stands for all the bytes that are left. -/
def isAddress : Nat → List Nat → Bool
  | _, [] => false
  | left, [n] => decide (n < 256 ^ left)
  | left, n :: rest => decide (1 < left ∧ n < 256) && isAddress (left - 1) rest

/-- A host that ends in a number is an IPv4 address. -/
def fitsIpv4 (parts : List (List Char)) : Bool :=
  let parts := withoutRoot parts
  if (parts.getLast?.map isNumeric).getD false then
    match parts.mapM number with
    | some ns => isAddress 4 ns
    | none => false
  else true

/-- The name of a host, once its percent signs are resolved. -/
def isName (cs : List Char) : Bool :=
  match (Percent.decode cs).bind fun name => Domain.labels? name.toList with
  | none => false
  | some parts =>
    parts != [[]] && !parts.any (fun part => part.any isForbiddenInName) && fitsIpv4 parts

/-- Four numbers below 256, without zeros in front. -/
def isDotted (cs : List Char) : Bool :=
  let parts := Form.splitOn '.' cs
  parts.length == 4 && parts.all fun p =>
    !p.isEmpty && p.all Char.isDigit && decide (ofDigits p < 256) &&
      (p.length == 1 || p.head? != some '0')

/-- How many groups of an IPv6 address the parts stand for. -/
def groupCount : List (List Char) → Option Nat
  | [] => some 0
  | [p] =>
    if isDotted p then some 2
    else if !p.isEmpty && decide (p.length ≤ 4) && p.all (fun c => (Percent.hexValue c).isSome) then
      some 1
    else none
  | p :: rest =>
    if !p.isEmpty && decide (p.length ≤ 4) && p.all (fun c => (Percent.hexValue c).isSome) then
      (groupCount rest).map (· + 1)
    else none

/-- The texts before and after the first `::`. -/
def splitGap : List Char → Option (List Char × List Char)
  | ':' :: ':' :: rest => some ([], rest)
  | c :: rest => (splitGap rest).map fun p => (c :: p.1, p.2)
  | [] => none

/-- The groups of a text between colons, where no text has none. -/
def groups (cs : List Char) : Option Nat :=
  if cs.isEmpty then some 0 else groupCount (Form.splitOn ':' cs)

/-- An IPv6 address, without its brackets. -/
def isIpv6 (cs : List Char) : Bool :=
  match splitGap cs with
  | none => groups cs == some 8
  | some (a, b) =>
    match groups a, groups b with
    | some m, some n => !a.contains '.' && decide (m + n ≤ 7)
    | _, _ => false

/-- A host in brackets is an IPv6 address; any other is judged by `plain`. -/
def fits (plain : List Char → Bool) (cs : List Char) : Bool :=
  match cs with
  | '[' :: rest => rest.getLast? == some ']' && isIpv6 rest.dropLast
  | _ => plain cs

end Couponry.Http.HostName
