import Couponry.Json.Reading
import Couponry.Text.Numeral

/-!
# Reading typed values

Decoders from readings, and records of named fields. A decoder gives the first fault in the order
of the text: where the text stops being JSON before the value is complete it is `broken`, and
where a value has the wrong shape it is a `misfit`. A record is written as an object, whose
members may stand in any order among unknown ones, or as an array of its fields in their order.
-/

namespace Couponry.Json

open Couponry.Text

/-- Reads a value of type `α`. -/
abbrev Decoder (α : Type) : Type :=
  Reading → Except Fault α

namespace Decoder

/-- The fault of a reading that is not of the kind that is needed. -/
def mismatch {α : Type} : Decoder α
  | .unreadable | .torn => .error .broken
  | _ => .error .misfit

/-- A signed 64-bit number. -/
def int64 : Decoder Int
  | .int n => if fitsInt64 n then .ok n else .error .misfit
  | r => mismatch r

/-- A natural number below `bound`. -/
def below (bound : Nat) : Decoder Nat
  | .int (.ofNat n) => if n < bound then .ok n else .error .misfit
  | r => mismatch r

/-- A text. -/
def text : Decoder String
  | .text s => .ok s
  | r => mismatch r

/-- A truth value. -/
def bool : Decoder Bool
  | .bool b => .ok b
  | r => mismatch r

/-- Nothing but `null`. -/
def null : Decoder Unit
  | .null => .ok ()
  | r => mismatch r

/-- `null`, or a value. -/
def nullable {α : Type} (d : Decoder α) : Decoder (Option α)
  | .null => .ok none
  | r => (d r).map some

/-- The value that a name stands for. -/
def named {α : Type} (names : List (String × α)) (s : String) : Except Fault α :=
  match names.lookup s with
  | some a => .ok a
  | none => .error .misfit

/-- One of several names: as a text, or as an object with that name and `null`. -/
def choice {α : Type} (names : List (String × α)) : Decoder α
  | .text s => named names s
  | .object ((some s, r) :: rest) closed => do
    let a ← named names s
    null r
    if rest.isEmpty && closed then .ok a else .error .broken
  | _ => .error .broken

/-- A text that is read further. -/
def parsed {α : Type} (parse : String → Option α) : Decoder α
  | .text s =>
    match parse s with
    | some a => .ok a
    | none => .error .misfit
  | r => mismatch r

/-- A list of values. -/
def list {α : Type} (d : Decoder α) : Decoder (List α)
  | .array items closed => do
    let values ← items.mapM d
    if closed then .ok values else .error .broken
  | r => mismatch r

end Decoder

/-- A document that holds one value and nothing beside it. -/
def Reading.Document.read {α : Type} (doc : Reading.Document) (d : Decoder α) : Except Fault α := do
  let a ← d doc.root
  if doc.clean then .ok a else .error .broken

/-! ## Records -/

/-- The place of a field in a record. -/
structure Slot where
  name : String
  check : Reading → Except Fault Unit
  /-- An array may end before this field. -/
  trailing : Bool

/-- A record of named fields: where they stand, and the value once every one of them is found. -/
structure Record (α : Type) where
  slots : List Slot
  build : (String → Option Reading) → Except Fault α

namespace Record

/-- A field that must be there. -/
def required {α : Type} (name : String) (d : Decoder α) : Record α where
  slots := [⟨name, fun r => (d r).map fun _ => (), false⟩]
  build := fun look =>
    match look name with
    | some r => d r
    | none => .error .misfit

/-- A field that may be missing or `null`. -/
def optional {α : Type} (name : String) (d : Decoder α) : Record (Option α) where
  slots := [⟨name, fun r => (d.nullable r).map fun _ => (), false⟩]
  build := fun look =>
    match look name with
    | some r => d.nullable r
    | none => .ok none

/-- A field that may be missing, also at the end of an array. -/
def defaulted {α : Type} (name : String) (d : Decoder α) (absent : α) : Record α where
  slots := [⟨name, fun r => (d r).map fun _ => (), true⟩]
  build := fun look =>
    match look name with
    | some r => d r
    | none => .ok absent

instance : Functor Record where
  map f r := ⟨r.slots, fun look => (r.build look).map f⟩

instance : Applicative Record where
  pure a := ⟨[], fun _ => .ok a⟩
  seq f r :=
    ⟨f.slots ++ (r ()).slots, fun look => do
      let g ← f.build look
      (r ()).build look |>.map g⟩

/-- The first fault among the members of an object, where `seen` are the names so far. -/
def checkMembers (slots : List Slot) (seen : List String) :
    List (Option String × Reading) → Bool → Except Fault Unit
  | [], closed => if closed then .ok () else .error .broken
  | (none, _) :: _, _ => .error .broken
  | (some name, r) :: rest, closed =>
    match slots.find? fun s => s.name == name with
    | none => if r.whole then checkMembers slots seen rest closed else .error .broken
    | some slot => do
      if seen.contains name then .error .misfit
      slot.check r
      checkMembers slots (name :: seen) rest closed

/-- The first fault among the items of an array that stand for the fields. -/
def checkItems : List Slot → List Reading → Bool → Except Fault Unit
  | [], [], closed => if closed then .ok () else .error .broken
  | [], _ :: _, _ => .error .broken
  | slot :: slots, [], closed =>
    if !closed then .error .broken
    else if slot.trailing then checkItems slots [] closed
    else .error .misfit
  | slot :: slots, r :: rest, closed => do
    slot.check r
    checkItems slots rest closed

/-- Reads a record. -/
def read {α : Type} (record : Record α) : Decoder α
  | .object members closed => do
    checkMembers record.slots [] members closed
    record.build fun name => members.lookup (some name)
  | .array items closed => do
    checkItems record.slots items closed
    record.build fun name => ((record.slots.map Slot.name).zip items).lookup name
  | r => Decoder.mismatch r

end Record

/-! ## Values with a tag -/

/-- What is known of a value that is given by two members, its kind and its content. -/
inductive Halves (κ α : Type) where
  | neither
  | kind (k : κ)
  | content (r : Reading)
  | both (a : α)

/-- Reads the members of such a value. Content that stands before its kind is kept until then. -/
def readHalves {κ α : Type} (kindName contentName : String) (kind : Decoder κ)
    (content : κ → Decoder α) :
    Halves κ α → List (Option String × Reading) → Bool → Except Fault α
  | found, [], closed =>
    if !closed then .error .broken
    else
      match found with
      | .both a => .ok a
      | _ => .error .misfit
  | _, (none, _) :: _, _ => .error .broken
  | found, (some name, r) :: rest, closed =>
    if name == kindName then
      match found with
      | .neither => do
        let k ← kind r
        readHalves kindName contentName kind content (.kind k) rest closed
      | .content stored => do
        let k ← kind r
        match content k stored with
        | .ok a => readHalves kindName contentName kind content (.both a) rest closed
        | .error _ => .error .misfit
      | _ => .error .misfit
    else if name == contentName then
      match found with
      | .neither =>
        if r.storable then readHalves kindName contentName kind content (.content r) rest closed
        else .error .broken
      | .kind k => do
        let a ← content k r
        readHalves kindName contentName kind content (.both a) rest closed
      | _ => .error .misfit
    else if r.whole then readHalves kindName contentName kind content found rest closed
    else .error .broken

/-- A value of two members, its kind and its content, or an array of these two. As a member the
kind is one of several names in either of their forms; in an array it is a text. -/
def paired {κ α : Type} (kindName contentName : String) (kinds : List (String × κ))
    (content : κ → Decoder α) : Decoder α
  | .object members closed =>
    readHalves kindName contentName (Decoder.choice kinds) content .neither members closed
  | .array items closed => do
    match items with
    | [] => .error (if closed then .misfit else .broken)
    | k :: rest => do
      let name ← Decoder.text k
      let k ← Decoder.named kinds name
      match rest with
      | [] => .error (if closed then .misfit else .broken)
      | r :: rest => do
        let a ← content k r
        if rest.isEmpty && closed then .ok a else .error .broken
  | r => Decoder.mismatch r

/-- The members of a value that is tagged by one of them: the tag, and the others in order. -/
def splitTag (tagName : String) (tag : Decoder String) :
    Option String → List (Option String × Reading) → List (Option String × Reading) → Bool →
      Except Fault (String × Reading)
  | found, others, [], closed =>
    if !closed then .error .broken
    else
      match found with
      | some t => .ok (t, .object others.reverse true)
      | none => .error .misfit
  | _, _, (none, _) :: _, _ => .error .broken
  | found, others, (some name, r) :: rest, closed =>
    if name == tagName then
      match found with
      | some _ => .error .misfit
      | none => do
        let t ← tag r
        splitTag tagName tag (some t) others rest closed
    else if r.storable then splitTag tagName tag found ((some name, r) :: others) rest closed
    else .error .broken

/-- A record that one of its members, or its first item, tags. The tag says which fields the others
are, so they are kept until the whole value has been seen. -/
def tagged {α : Type} (tagName : String) (records : List (String × Record α)) :
    Decoder α := fun r =>
  let tag : Decoder String := fun r => do
    let t ← Decoder.text r
    if (records.lookup t).isSome then .ok t else .error .misfit
  let finish (t : String) (others : Reading) : Except Fault α :=
    match records.lookup t with
    | some record =>
      match record.read others with
      | .ok a => .ok a
      | .error _ => .error .misfit
    | none => .error .misfit
  match r with
  | .object members closed => do
    let (t, others) ← splitTag tagName tag none [] members closed
    finish t others
  | .array [] closed => .error (if closed then .misfit else .broken)
  | .array (t :: rest) closed => do
    let t ← tag t
    if closed && rest.all Reading.storable then finish t (.array rest true) else .error .broken
  | r => Decoder.mismatch r

end Couponry.Json
