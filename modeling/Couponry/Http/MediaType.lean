/-!
# Media types

Whether the value of a content-type header names JSON: `application/json`, or a subtype with the
suffix `+json`, in any case and with any well-formed parameters.
-/

namespace Couponry.Http.MediaType

/-- A character that may stand in a token. -/
def isToken (c : Char) : Bool :=
  c.isAlphanum || "!#$%&'*+-.^_\x60|~".toList.contains c

/-- A character that may stand between quotes. -/
def isQuoted (c : Char) : Bool :=
  decide (31 < c.toNat) && c != '\x7f'

/-- After a quoted value: blanks, and then the next parameter or the end. -/
def afterQuoted : List Char → Option (List Char)
  | [] => some []
  | ';' :: rest => some rest
  | ' ' :: rest => afterQuoted rest
  | _ => none

/-- What follows a quoted value, whose first character has been read. -/
def quotedTail : List Char → Option (List Char)
  | [] => none
  | '"' :: rest => afterQuoted rest
  | c :: rest => if isQuoted c then quotedTail rest else none

/-- What follows the value of a parameter. -/
def value (cs : List Char) : Option (List Char) :=
  match cs with
  | '"' :: c :: rest => if isQuoted c then quotedTail rest else none
  | _ =>
    match cs.takeWhile isToken, cs.dropWhile isToken with
    | _, [] => some []
    | _ :: _, ';' :: rest => some rest
    | _, _ => none

/-- The parameters are well formed. Every one of them takes at least one character. -/
def parametersFit : Nat → List Char → Bool
  | _, [] => true
  | 0, _ :: _ => false
  | fuel + 1, ' ' :: rest => parametersFit fuel rest
  | fuel + 1, cs =>
    match cs.takeWhile isToken, cs.dropWhile isToken with
    | _ :: _, '=' :: rest =>
      match value rest with
      | some rest => parametersFit fuel rest
      | none => false
    | _, _ => false

/-- The parts of a subtype before and after the last plus sign that does not start it. -/
def splitSuffix (subtype : List Char) : List Char × Option (List Char) :=
  let suffix := (subtype.reverse.takeWhile (· != '+')).reverse
  let before := subtype.take (subtype.length - suffix.length - 1)
  if before.isEmpty then (subtype, none) else (before, some suffix)

/-- The essence of a media type names JSON. -/
def essenceIsJson (essence : List Char) : Bool :=
  let lower := essence.map Char.toLower
  let top := lower.takeWhile (· != '/')
  let sub := (lower.dropWhile (· != '/')).drop 1
  let (base, suffix) := splitSuffix sub
  top == "application".toList && !sub.isEmpty && sub.all isToken &&
    (base == "json".toList || suffix == some "json".toList)

/-- The value of a content-type header names JSON. -/
def isJson (header : String) : Bool :=
  let cs := header.toList
  let essence := cs.takeWhile (· != ';')
  let parameters := (cs.dropWhile (· != ';')).drop 1
  essenceIsJson essence && parametersFit parameters.length parameters

end Couponry.Http.MediaType
