import Couponry.Json.Printer
import Couponry.Json.Reading

/-!
# Passing JSON on

A tree that was read, passed on: as the value it holds, as text again, or with all its strings
replaced.
-/

namespace Couponry.Json

mutual

/-- The value with every string replaced. Names of members stay. -/
def mapText (f : String → String) : Json → Json
  | .text s => .text (f s)
  | .array items => .array (mapItemTexts f items)
  | .object members => .object (mapMemberTexts f members)
  | j => j

/-- `mapText` of every item. -/
def mapItemTexts (f : String → String) : List Json → List Json
  | [] => []
  | j :: rest => j.mapText f :: mapItemTexts f rest

/-- `mapText` of every member. -/
def mapMemberTexts (f : String → String) : List (String × Json) → List (String × Json)
  | [] => []
  | (k, j) :: rest => (k, j.mapText f) :: mapMemberTexts f rest

end

namespace Reading

mutual

/-- The tree with every string replaced. Names of members stay. -/
def mapText (f : String → String) : Reading → Reading
  | .text s => .text (f s)
  | .array items closed => .array (mapItemTexts f items) closed
  | .object members closed => .object (mapMemberTexts f members) closed
  | r => r

/-- `mapText` of every item. -/
def mapItemTexts (f : String → String) : List Reading → List Reading
  | [] => []
  | r :: rest => r.mapText f :: mapItemTexts f rest

/-- `mapText` of every member. -/
def mapMemberTexts (f : String → String) :
    List (Option String × Reading) → List (Option String × Reading)
  | [] => []
  | (k, r) :: rest => (k, r.mapText f) :: mapMemberTexts f rest

end

mutual

/-- The value that a tree holds. What has no value, such as a number that is not whole, is null. -/
def toJson : Reading → Json
  | .bool b => .bool b
  | .int n => .int n
  | .text s => .text s
  | .array items _ => .array (toItems items)
  | .object members _ => .object (toMembers members)
  | _ => .null

/-- The values of items. -/
def toItems : List Reading → List Json
  | [] => []
  | r :: rest => r.toJson :: toItems rest

/-- The values of members. A member whose name is no text has an empty one. -/
def toMembers : List (Option String × Reading) → List (String × Json)
  | [] => []
  | (k, r) :: rest => (k.getD "", r.toJson) :: toMembers rest

end

mutual

/-- The text of a tree. Numbers are spelled as they were read. -/
def chars : Reading → List Char
  | .real spelling => spelling.toList
  | .array [] _ => ['[', ']']
  | .array (r :: rest) _ => '[' :: r.chars ++ itemChars rest
  | .object [] _ => ['\x7b', '\x7d']
  | .object ((k, r) :: rest) _ =>
    '\x7b' :: quoted (k.getD "") ++ ':' :: r.chars ++ memberChars rest
  | .bool b => (Json.bool b).chars
  | .int n => (Json.int n).chars
  | .text s => quoted s
  | _ => Json.null.chars

/-- The items after the first, and the end of the array. -/
def itemChars : List Reading → List Char
  | [] => [']']
  | r :: rest => ',' :: r.chars ++ itemChars rest

/-- The members after the first, and the end of the object. -/
def memberChars : List (Option String × Reading) → List Char
  | [] => ['\x7d']
  | (k, r) :: rest => ',' :: quoted (k.getD "") ++ ':' :: r.chars ++ memberChars rest

end

/-- The text of a tree. -/
def render (r : Reading) : String :=
  String.ofList r.chars

end Reading

end Couponry.Json
