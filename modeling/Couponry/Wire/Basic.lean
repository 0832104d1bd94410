import Couponry.Json.Printer
import Couponry.Json.Record
import Couponry.Identity
import Couponry.ErrorKind
import Couponry.Discount
import Couponry.Time.Rfc3339

/-!
# Wire forms

The JSON form of a type: how a value is written and how it is read. Ids and amounts are plain 64-bit
numbers, instants are timestamps, names of variants are texts.
-/

namespace Couponry

open Json

/-- A type with a JSON form. -/
class Wire (α : Type) where
  write : α → Json
  read : Decoder α

namespace Wire

/-- A field of a record. -/
def field (α : Type) [Wire α] (name : String) : Record α :=
  .required name read

/-- A field that may be missing or `null`. -/
def field? (α : Type) [Wire α] (name : String) : Record (Option α) :=
  .optional name read

/-- A field that may be missing altogether, also at the end of an array. -/
def trailing? (α : Type) [Wire α] (name : String) : Record (Option α) :=
  .defaulted name (Decoder.nullable read) none

/-- The value of a document that holds one value of the type. -/
def ofDocument (α : Type) [Wire α] (doc : Reading.Document) : Except Fault α :=
  doc.read read

/-- Reads a JSON text. -/
def ofText (α : Type) [Wire α] (s : String) : Except Fault α :=
  ofDocument α (.ofText s)

/-- The JSON text of a value. -/
def toText {α : Type} [Wire α] (a : α) : String :=
  (write a).render

instance : Wire Int := ⟨.int, Decoder.int64⟩

instance : Wire Bool := ⟨.bool, Decoder.bool⟩

instance : Wire String := ⟨.text, Decoder.text⟩

instance {α : Type} [Wire α] : Wire (Option α) :=
  ⟨Json.ofOption write, Decoder.nullable read⟩

instance {α : Type} [Wire α] : Wire (List α) :=
  ⟨fun as => .array (as.map write), Decoder.list read⟩

/-- Nothing is written as `null`. -/
instance : Wire Unit where
  write _ := .null
  read
    | .null => .ok ()
    | _ => .error .misfit

/-- Two values are an array of two. -/
instance {α β : Type} [Wire α] [Wire β] : Wire (α × β) where
  write p := .array [write p.1, write p.2]
  read
    | .array [a, b] true => return (← read a, ← read b)
    | _ => .error .misfit

instance {kind : IdKind} : Wire (Id kind) :=
  ⟨fun id => .int id.value, fun r => (Decoder.int64 r).map Id.mk⟩

instance : Wire Money :=
  ⟨fun m => .int m.cents, fun r => (Decoder.int64 r).map Money.mk⟩

instance : Wire Instant :=
  ⟨fun t => .text (Time.Rfc3339.format t), Decoder.parsed Time.Rfc3339.parse⟩

/-- The names of the roles. -/
def roleNames : List (String × Role) :=
  Role.all.map fun r => (r.name, r)

instance : Wire Role :=
  ⟨fun r => .text r.name, Decoder.choice roleNames⟩

/-- The names of the kinds of errors. -/
def errorKindNames : List (String × ErrorKind) :=
  ErrorKind.all.map fun k => (k.name, k)

instance : Wire ErrorKind :=
  ⟨fun k => .text k.name, Decoder.choice errorKindNames⟩

/-- An identity as a record. -/
def identity : Record Identity :=
  Identity.mk <$> field UserId "user_id" <*> field Role "role"

instance : Wire Identity where
  write i := .object [("user_id", write i.userId), ("role", write i.role)]
  read := identity.read

/-! ## Discount rules -/

/-- The kind of a rule on the wire. -/
def discountKindName : DiscountKind → String
  | .percent => "percent"
  | .value => "value"

instance : Wire DiscountKind where
  write k := .text (discountKindName k)
  read := Decoder.choice ([.percent, .value].map fun k => (discountKindName k, k))

/-- The two forms of a rule on the wire. -/
def ruleForm : DiscountKind → String
  | .percent => "percent"
  | .value => "fixed_value"

/-- The number of a rule whose kind is known. No range is checked but that of the word. -/
def ruleContent : DiscountKind → Decoder DiscountRule
  | .percent => fun r => (Decoder.below (2 ^ 32) r).map .percent
  | .value => fun r => (read r).map .fixedValue

instance : Wire DiscountRule where
  write rule := .object [("kind", .text (ruleForm rule.kind)), ("value", .int rule.value)]
  read :=
    paired "kind" "value" ([.percent, .value].map fun k => (ruleForm k, k)) ruleContent

end Wire

end Couponry
