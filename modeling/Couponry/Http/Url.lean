import Couponry.Http.Host

/-!
# URLs

Absolute URLs as bases for requests. Of a URL only its path and its query matter here; the rest is
checked and dropped. `Url.push` adds one segment to the path, with every character encoded that
would end the segment or start a query.
-/

namespace Couponry.Http

open Couponry.Text

/-- The path of a URL, segment by segment and encoded, and its query. -/
structure Url where
  path : List (List Char)
  query : Option (List Char)
  deriving DecidableEq, Repr

namespace Url

/-! ## Characters -/

/-- Line breaks and tabs, which vanish from a URL. -/
def vanishes (c : Char) : Bool :=
  c == '\t' || c == '\n' || c == '\r'

/-- A character that stands for itself in a path. -/
def keptInPath (c : Char) : Bool :=
  decide (0x20 < c.toNat ∧ c.toNat < 0x7F) && !"\"#<>?\x60\x7b\x7d".toList.contains c

/-- A character that stands for itself in a segment that is pushed. -/
def keptInSegment (c : Char) : Bool :=
  keptInPath c && c != '/' && c != '%' && c != '\\'

/-- A character that stands for itself in a query. -/
def keptInQuery (c : Char) : Bool :=
  decide (0x20 < c.toNat ∧ c.toNat < 0x7F) && !"\"#<>'".toList.contains c

/-! ## Paths -/

/-- The segment means the place it stands in. -/
def isHere (segment : List Char) : Bool :=
  segment == ['.'] || segment.map Char.toLower == "%2e".toList

/-- The segment means the place above. -/
def isAbove (segment : List Char) : Bool :=
  ["..", ".%2e", "%2e.", "%2e%2e"].any fun s => segment.map Char.toLower == s.toList

/-- A letter that names a drive. -/
def isDrive (name : List Char) : Bool :=
  match name with
  | [letter, mark] => letter.isAlpha && (mark == ':' || mark == '|')
  | _ => false

/-- The place above a path. Nothing lies above a drive. -/
def above (path : List (List Char)) : List (List Char) :=
  if path.getLast?.any isDrive then path else path.dropLast

/-- Resolves the segments that mean places, after the segments `done`. -/
def resolve : List (List Char) → List (List Char) → List (List Char)
  | done, [] => done
  | done, [segment] =>
    if isAbove segment then above done ++ [[]]
    else if isHere segment then done ++ [[]]
    else done ++ [segment]
  | done, segment :: rest =>
    if isAbove segment then resolve (above done) rest
    else if isHere segment then resolve done rest
    else resolve (done ++ [segment]) rest

/-- The segments of a path, which starts with a slash. -/
def segments (path : List Char) : List (List Char) :=
  resolve [] ((Form.splitOn '/' (path.drop 1)).map (Percent.encode keptInPath))

/-- The path without an empty segment at its end, unless it has no other. -/
def popIfEmpty (path : List (List Char)) : List (List Char) :=
  if path.length > 1 ∧ path.getLast? = some [] then path.dropLast else path

/-- The path with one more segment. -/
def pushSegment (path : List (List Char)) (text : String) : List (List Char) :=
  let segment := Percent.encode keptInSegment (text.toList.filter fun c => !vanishes c)
  let path := if path = [[]] then [] else path
  if segment = ['.', '.'] then above path ++ [[]]
  else if segment = ['.'] then path ++ [[]]
  else path ++ [segment]

/-- The URL with one more segment in its path. The texts `.` and `..` add none. -/
def push (u : Url) (text : String) : Url :=
  if text = "." ∨ text = ".." then u else { u with path := pushSegment u.path text }

/-- The path and the query, as a request names them. -/
def target (u : Url) : String :=
  String.ofList
    ((u.path.flatMap fun segment => '/' :: segment) ++
      match u.query with
      | some q => '?' :: q
      | none => [])

/-- The URL with one more pair in its query. -/
def addPair (u : Url) (name value : String) : Url :=
  let pair := name.toList ++ '=' :: value.toList
  { u with
    query :=
      match u.query with
      | none | some [] => some pair
      | some q => some (q ++ '&' :: pair) }

/-! ## Reading -/

/-- The kinds of schemes that differ in what follows them. -/
inductive Scheme where
  /-- A host is needed, and any number of slashes and backslashes may stand before it. -/
  | web
  | file
  | other
  deriving DecidableEq, Repr

/-- The kind of a scheme. -/
def Scheme.ofName (name : String) : Scheme :=
  if ["http", "https", "ws", "wss", "ftp"].contains name then .web
  else if name = "file" then .file
  else .other

/-- The scheme of a URL in lower case, and what follows its colon. -/
def splitScheme (cs : List Char) : Option (String × List Char) :=
  let name := cs.takeWhile (· != ':')
  match cs.dropWhile (· != ':'), name with
  | _ :: rest, c :: _ =>
    if c.isAlpha && name.all fun c => c.isAlphanum || "+-.".toList.contains c then
      some (String.ofList (name.map Char.toLower), rest)
    else none
  | _, _ => none

/-- The text up to the last `@`, if there is one, and what follows it. -/
def splitUser (authority : List Char) : Option (List Char) × List Char :=
  if authority.contains '@' then
    let host := (authority.reverse.takeWhile (· != '@')).reverse
    (some (authority.take (authority.length - host.length - 1)), host)
  else (none, authority)

/-- The host and the port of what follows the user. A colon inside brackets starts no port. -/
def splitPort (cs : List Char) : List Char × Option (List Char) :=
  let name :=
    match cs with
    | '[' :: _ => (cs.takeWhile (· != ']')) ++ ((cs.dropWhile (· != ']')).takeWhile (· != ':'))
    | _ => cs.takeWhile (· != ':')
  match cs.drop name.length with
  | _ :: port => (name, some port)
  | [] => (name, none)

/-- A port is empty or a number below 65536. A backslash ends it, and the path begins there. -/
def portFits (port : List Char) : Bool :=
  let number := port.takeWhile Char.isDigit
  decide (ofDigits number < 65536) && [none, some '\\'].contains (port.drop number.length).head?

/-- A user without a name and without a password. -/
def isNobody (user : List Char) : Bool :=
  user == [] || user == [':']

/-- An authority without a host: it has no port and no user, but may have the marks of an empty
user. A bare `@` is such a mark only at the end of the URL. -/
def hostlessFits (user port : Option (List Char)) (rest : List Char) : Bool :=
  port.isNone && isNobody (user.getD []) && !(user == some [] && !rest.isEmpty)

/-- What stands between the scheme and `rest` names a host. -/
def authorityFits (scheme : Scheme) (authority rest : List Char) : Bool :=
  let (user, place) := splitUser authority
  let (name, port) := splitPort place
  let hostFits :=
    match scheme with
    | .web => HostName.fits HostName.isName name
    | _ =>
      if name.isEmpty then hostlessFits user port rest
      else HostName.fits (fun cs => !cs.any HostName.isForbidden) name
  hostFits && portFits (port.getD [])

/-- The path and the query of what follows the authority. -/
def ofRest (rest : List Char) : Url :=
  let rest := rest.takeWhile (· != '#')
  { path :=
      match rest.takeWhile (· != '?') with
      | [] => []
      | path => segments path
    query :=
      match rest.dropWhile (· != '?') with
      | [] => none
      | _ :: query => some (Percent.encode keptInQuery query) }

/-- The character ends an authority. -/
def endsAuthority (c : Char) : Bool :=
  c == '/' || c == '?' || c == '#'

/-- A URL of a web scheme: what follows the colon. -/
def ofWeb (rest : List Char) : Option Url :=
  let rest := rest.dropWhile (· == '/')
  let authority := rest.takeWhile fun c => !endsAuthority c
  let rest := rest.dropWhile fun c => !endsAuthority c
  if authorityFits .web authority rest then
    let u := ofRest rest
    some (if u.path.isEmpty then { u with path := [[]] } else u)
  else none

/-- A URL of a file: what follows the colon. A drive is the first part of its path and no host. -/
def ofFile (rest : List Char) : Option Url :=
  match rest with
  | '/' :: '/' :: rest =>
    let name := rest.takeWhile fun c => !endsAuthority c
    if name.isEmpty || isDrive name || HostName.fits HostName.isName name then
      let u := ofRest (if isDrive name then '/' :: rest else rest.drop name.length)
      some (if u.path.isEmpty then { u with path := [[]] } else u)
    else none
  | '/' :: _ => some (ofRest rest)
  | _ => some (ofRest ('/' :: rest))

/-- A URL of any other scheme: what follows the colon. One without a slash is no base. -/
def ofOther (rest : List Char) : Option Url :=
  match rest with
  | '/' :: '/' :: rest =>
    let authority := rest.takeWhile fun c => !endsAuthority c
    let rest := rest.dropWhile fun c => !endsAuthority c
    if authorityFits .other authority rest then some (ofRest rest) else none
  | '/' :: _ => some (ofRest rest)
  | _ => none

/-- A backslash counts as a slash before the query. -/
def slashes (cs : List Char) : List Char :=
  ((cs.takeWhile (· != '?')).map fun c => if c = '\\' then '/' else c) ++ cs.dropWhile (· != '?')

/-- Control characters and blanks, which do not count at the ends of a URL. -/
def isEdge (c : Char) : Bool :=
  decide (c.toNat ≤ 0x20)

/-- Reads a URL that can be a base. -/
def parse (text : String) : Option Url := do
  let cs := ((text.toList.dropWhile isEdge).reverse.dropWhile isEdge).reverse
  let (name, rest) ← splitScheme (cs.filter fun c => !vanishes c)
  match Scheme.ofName name with
  | .web => ofWeb (slashes rest)
  | .file => ofFile (slashes rest)
  | .other => ofOther rest

end Url

end Couponry.Http
