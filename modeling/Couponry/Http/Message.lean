import Couponry.Json.Printer

/-!
# HTTP messages

Requests and responses as far as the program looks at them. Header names are compared without regard
to case, and of several headers of one name the first counts.
-/

namespace Couponry.Http

/-- Header names with their values, in order. -/
abbrev Headers : Type :=
  List (String × String)

namespace Headers

/-- A name in lower case. -/
def fold (name : String) : List Char :=
  name.toList.map Char.toLower

/-- The value of the first header of a name. -/
def get? (headers : Headers) (name : String) : Option String :=
  (headers.find? fun h => fold h.1 == fold name).map Prod.snd

/-- The value is made of visible characters, blanks and tabs of ASCII. -/
def isReadable (value : String) : Bool :=
  value.toList.all fun c => c == '\t' || decide (0x20 ≤ c.toNat ∧ c.toNat < 0x7F)

/-- The value of a header, if it can be read. -/
def text? (headers : Headers) (name : String) : Option String :=
  (headers.get? name).filter isReadable

end Headers

/-- A request. -/
structure Request where
  method : String
  /-- The path and the query. A scheme and an authority may stand before them and a fragment behind
  them, which say nothing here. -/
  target : String
  headers : Headers
  body : String
  deriving DecidableEq, Repr

namespace Request

/-- What follows a scheme and an authority. -/
def afterAuthority : List Char → List Char
  | ':' :: '/' :: '/' :: rest => rest.dropWhile fun c => c != '/' && c != '?'
  | _ :: rest => afterAuthority rest
  | [] => []

/-- The path and the query of a target. -/
def place (r : Request) : List Char :=
  let target := r.target.toList.takeWhile (· != '#')
  if target.head? = some '/' then target else afterAuthority target

/-- The path of a target. -/
def path (r : Request) : List Char :=
  r.place.takeWhile (· != '?')

/-- The query of a target, which may be empty. -/
def query (r : Request) : List Char :=
  (r.place.dropWhile (· != '?')).drop 1

end Request

/-- A response. -/
structure Response where
  status : Nat
  headers : Headers
  body : String
  deriving DecidableEq, Repr

namespace Response

/-- A response without a body. -/
def empty (status : Nat) : Response :=
  ⟨status, [], ""⟩

/-- What a reader gets of the body: some statuses come without one, whatever was sent. -/
def content (r : Response) : String :=
  if [101, 204, 304].contains r.status then "" else r.body

/-- The request succeeded. -/
def isSuccess (r : Response) : Bool :=
  decide (200 ≤ r.status ∧ r.status < 300)

/-- A response with a JSON body. -/
def json (status : Nat) (body : Json) : Response :=
  ⟨status, [("content-type", "application/json")], body.render⟩

/-- A response with a line of text, which is for people only. -/
def text (status : Nat) (body : String) : Response :=
  ⟨status, [("content-type", "text/plain; charset=utf-8")], body⟩

end Response

end Couponry.Http
