import Couponry.Json.Token

/-!
# JSON readings

What a JSON text holds, as far as it can be read. A `Reading` is the tree of a text that may stop
being JSON at some place: the containers that are open there are marked as not closed, and a value
that is missing there is `torn`. So a reader of a typed value finds its first fault in the order of
the text, whichever kind it is. The tree is built by a machine with one frame for each open
container, one token at a time.
-/

namespace Couponry.Json

/-- The tree of a JSON text. A member name that is no text is `none`. -/
inductive Reading where
  | null
  | bool (value : Bool)
  | int (value : Int)
  | real (spelling : String)
  | text (value : String)
  /-- A string or number that may be skipped but has no value. -/
  | unreadable
  | array (items : List Reading) (closed : Bool)
  | object (members : List (Option String × Reading)) (closed : Bool)
  /-- A container deeper than `maxDepth`, which may be skipped but not kept. -/
  | buried (inner : Reading)
  /-- No value stands here. -/
  | torn
  deriving Inhabited

namespace Reading

/-- How many containers may enclose one another in a value that is kept. -/
def maxDepth : Nat := 127

/-- An open container and what it holds so far, last first. -/
inductive Frame where
  | items (done : List Reading)
  /-- The members, and the name of the one that is being read. -/
  | members (done : List (Option String × Reading)) (name : Option String)

/-- The container of a frame that ends, with its closing bracket or without. -/
def Frame.seal (closed : Bool) : Frame → Reading
  | .items done => .array done.reverse closed
  | .members done _ => .object done.reverse closed

/-- The frame with one more value. -/
def Frame.add (r : Reading) : Frame → Frame
  | .items done => .items (r :: done)
  | .members done name => .members ((name, r) :: done) none

/-- What may come next. -/
inductive Place where
  | value
  | valueOrEnd
  | afterItem
  | nameOrEnd
  | name
  | colon
  | afterMember
  | finished
  deriving DecidableEq, Repr

/-- A tree on its way: the open containers, innermost first, and the tree once it is finished. -/
structure Builder where
  place : Place
  stack : List Frame
  root : Reading
  /-- Nothing that does not belong to the tree has been seen. -/
  clean : Bool

namespace Builder

/-- Nothing has been read. -/
def empty : Builder :=
  ⟨.value, [], .torn, true⟩

/-- The next value is `r`. -/
def add (stack : List Frame) (r : Reading) : Builder :=
  match stack with
  | [] => ⟨.finished, [], r, true⟩
  | .items done :: rest => ⟨.afterItem, (Frame.items done).add r :: rest, .torn, true⟩
  | .members done name :: rest =>
    ⟨.afterMember, (Frame.members done name).add r :: rest, .torn, true⟩

/-- The innermost container ends here. -/
def close (stack : List Frame) : Builder :=
  match stack with
  | [] => ⟨.finished, [], .torn, false⟩
  | f :: rest =>
    let r := f.seal true
    add rest (if rest.length < maxDepth then r else .buried r)

/-- The tree whose innermost value is `r`, when nothing more can be read. -/
def unwind (r : Reading) : List Frame → Reading
  | [] => r
  | f :: rest => unwind ((f.add r).seal false) rest

/-- The tree when what comes next is missing or does not fit. -/
def tear (b : Builder) : Reading :=
  match b.place, b.stack with
  | .finished, _ => b.root
  | .value, stack | .colon, stack => unwind .torn stack
  | _, [] => .torn
  | _, f :: rest => unwind (f.seal false) rest

/-- The text stops being JSON. -/
def fail (b : Builder) : Builder :=
  ⟨.finished, [], b.tear, false⟩

/-- A value starts with this token. -/
def startValue (b : Builder) : Token → Builder
  | .null => add b.stack .null
  | .bool v => add b.stack (.bool v)
  | .int v => add b.stack (.int v)
  | .real s => add b.stack (.real s)
  | .text s => add b.stack (.text s)
  | .unreadable => add b.stack .unreadable
  | .openArray => { b with place := .valueOrEnd, stack := .items [] :: b.stack }
  | .openObject => { b with place := .nameOrEnd, stack := .members [] none :: b.stack }
  | _ => b.fail

/-- The name of a member. -/
def startMember (b : Builder) (name : Option String) : Builder :=
  match b.stack with
  | .members done _ :: rest => { b with place := .colon, stack := .members done name :: rest }
  | _ => b.fail

/-- One more token. -/
def step (b : Builder) (t : Token) : Builder :=
  match b.place, t with
  | .finished, _ => { b with clean := false }
  | .value, t => b.startValue t
  | .valueOrEnd, .closeArray => close b.stack
  | .valueOrEnd, t => b.startValue t
  | .afterItem, .closeArray => close b.stack
  | .afterItem, .comma => { b with place := .value }
  | .nameOrEnd, .closeObject => close b.stack
  | .nameOrEnd, .text s | .name, .text s => b.startMember (some s)
  | .nameOrEnd, .unreadable | .name, .unreadable => b.startMember none
  | .colon, .colon => { b with place := .value }
  | .afterMember, .closeObject => close b.stack
  | .afterMember, .comma => { b with place := .name }
  | _, _ => b.fail

end Builder

/-- A whole text: its first value, and whether nothing else stands beside it. -/
structure Document where
  root : Reading
  clean : Bool

/-- The document that a run of tokens holds. -/
def Document.ofTokens (ts : List Token) : Document :=
  let b := ts.foldl Builder.step Builder.empty
  ⟨b.tear, b.clean && b.place == .finished⟩

/-- The document that a text holds. -/
def Document.ofText (s : String) : Document :=
  .ofTokens (Token.ofText s.toList)

/-! ## Skipping and keeping -/

mutual

/-- The value is JSON to its end, so it can be skipped. -/
def whole : Reading → Bool
  | .array items closed => closed && wholeItems items
  | .object members closed => closed && wholeMembers members
  | .buried inner => inner.whole
  | .torn => false
  | _ => true

/-- `whole` of every item. -/
def wholeItems : List Reading → Bool
  | [] => true
  | r :: rest => r.whole && wholeItems rest

/-- `whole` of every member. -/
def wholeMembers : List (Option String × Reading) → Bool
  | [] => true
  | (_, r) :: rest => r.whole && wholeMembers rest

end

mutual

/-- The value can be read in full, so it can be kept for later. -/
def storable : Reading → Bool
  | .array items closed => closed && storableItems items
  | .object members closed => closed && storableMembers members
  | .buried _ | .torn | .unreadable => false
  | _ => true

/-- `storable` of every item. -/
def storableItems : List Reading → Bool
  | [] => true
  | r :: rest => r.storable && storableItems rest

/-- `storable` of every member, names included. -/
def storableMembers : List (Option String × Reading) → Bool
  | [] => true
  | (name, r) :: rest => name.isSome && r.storable && storableMembers rest

end

end Reading

end Couponry.Json
