import Couponry.Database
import Couponry.Id
import Couponry.Money
import Couponry.Time.Instant

/-!
# Values of a database

What stands in a column or is bound to a parameter, and which types of the program are kept in which
columns. `Scalar.ofValue?_toValue` says that what is bound reads back; a null reads as no value, and
only where a value may be missing. Values travel as bytes, and a column that was announced with
another type than its value has is read by the bytes of that value.
-/

namespace Couponry

/-- The second at which the year 2000 starts. -/
def Instant.millennium : Int := 946684800

/-- The microseconds since the start of the year 2000, cut off toward it. -/
def Instant.micros (t : Instant) : Int :=
  ((t.second - millennium) * 1000000000 + t.nano).tdiv 1000

/-- The instant that many microseconds after the start of the year 2000. -/
def Instant.ofMicros (micros : Int) : Instant :=
  ⟨millennium + micros / 1000000, (micros % 1000000).toNat * 1000⟩

namespace Sql

/-- A value in a column or of a parameter. -/
inductive Value where
  | null
  /-- A signed number of 64 bits. -/
  | int8 (n : Int)
  /-- A signed number of 32 bits. -/
  | int4 (n : Int)
  | text (s : String)
  | bool (b : Bool)
  | time (t : Instant)
  /-- Bytes that are no value of the type that their column was announced with. -/
  | garbled
  deriving DecidableEq, Repr

/-- The type of a column. -/
inductive ColumnType where
  | int8
  | int4
  | text
  | bool
  | timestamptz
  deriving DecidableEq, Repr

/-- The type that a server calls by a name. Any other name is taken for a text. -/
def ColumnType.ofName : String → ColumnType
  | "int8" => .int8
  | "int4" => .int4
  | "bool" => .bool
  | "timestamptz" => .timestamptz
  | _ => .text

/-! ## Bytes -/

/-- A number as a word of `width` bytes, the highest first. -/
def wordBytes (width : Nat) (n : Int) : List UInt8 :=
  (List.range width).reverse.map fun i => UInt8.ofNat ((n / 256 ^ i) % 256).toNat

/-- The signed number that bytes stand for, the highest first. -/
def ofWordBytes (bytes : List UInt8) : Int :=
  let n : Nat := bytes.foldl (fun n b => n * 256 + b.toNat) 0
  if 2 * n < 256 ^ bytes.length then n else (n : Int) - 256 ^ bytes.length

namespace Value

/-- The type of a value, if it has one. -/
def type? : Value → Option ColumnType
  | .null | .garbled => none
  | .int8 _ => some .int8
  | .int4 _ => some .int4
  | .text _ => some .text
  | .bool _ => some .bool
  | .time _ => some .timestamptz

/-- The bytes in which a value travels. A time is told in microseconds. -/
def bytes : Value → List UInt8
  | .null | .garbled => []
  | .int8 n => wordBytes 8 n
  | .int4 n => wordBytes 4 n
  | .text s => s.toUTF8.toList
  | .bool b => [if b then 1 else 0]
  | .time t => wordBytes 8 t.micros

/-- The value of a type that bytes stand for. A number has one to eight of them, and a truth value
is told by the first. -/
def ofBytes (type : ColumnType) (bytes : List UInt8) : Value :=
  match type with
  | .text =>
    match String.fromUTF8? ⟨bytes.toArray⟩ with
    | some s => .text s
    | none => .garbled
  | .bool =>
    match bytes with
    | b :: _ => .bool (b != 0)
    | [] => .garbled
  | .int8 | .int4 | .timestamptz =>
    if bytes.isEmpty || decide (bytes.length > 8) then .garbled
    else
      let n := ofWordBytes bytes
      match type with
      | .int4 => .int4 n
      | .timestamptz => .time (.ofMicros n)
      | _ => .int8 n

/-- A value in a column that was announced with a type. -/
def through (type : ColumnType) (v : Value) : Value :=
  match v.type? with
  | none => v
  | some own => if own = type then v else ofBytes type v.bytes

end Value

/-! ## Types that are kept in columns -/

/-- A type whose values are kept in columns of one type. -/
class Scalar (α : Type) where
  toValue : α → Value
  ofValue? : Value → Option α
  ofValue?_toValue : ∀ a, ofValue? (toValue a) = some a
  toValue_ne_null : ∀ a, toValue a ≠ .null

instance : Scalar Int where
  toValue := .int8
  ofValue?
    | .int8 n => some n
    | _ => none
  ofValue?_toValue _ := rfl
  toValue_ne_null _ := nofun

instance : Scalar String where
  toValue := .text
  ofValue?
    | .text s => some s
    | _ => none
  ofValue?_toValue _ := rfl
  toValue_ne_null _ := nofun

instance : Scalar Bool where
  toValue := .bool
  ofValue?
    | .bool b => some b
    | _ => none
  ofValue?_toValue _ := rfl
  toValue_ne_null _ := nofun

instance : Scalar Instant where
  toValue := .time
  ofValue?
    | .time t => some t
    | _ => none
  ofValue?_toValue _ := rfl
  toValue_ne_null _ := nofun

/-- An id is kept as its number. -/
instance {kind : IdKind} : Scalar (Id kind) where
  toValue id := .int8 id.value
  ofValue?
    | .int8 n => some ⟨n⟩
    | _ => none
  ofValue?_toValue _ := rfl
  toValue_ne_null _ := nofun

/-- An amount is kept in cents. -/
instance : Scalar Money where
  toValue m := .int8 m.cents
  ofValue?
    | .int8 n => some ⟨n⟩
    | _ => none
  ofValue?_toValue _ := rfl
  toValue_ne_null _ := nofun

/-- A type that is bound to parameters and read from columns. -/
class Column (α : Type) where
  toValue : α → Value
  ofValue? : Value → Option α
  ofValue?_toValue : ∀ a, ofValue? (toValue a) = some a

instance {α : Type} [Scalar α] : Column α where
  toValue := Scalar.toValue
  ofValue? := Scalar.ofValue?
  ofValue?_toValue := Scalar.ofValue?_toValue

/-- What a value that may be missing is bound as. -/
def ofOption {α : Type} [Scalar α] : Option α → Value
  | none => .null
  | some a => Scalar.toValue a

/-- Reads a value that may be missing: a null is none, whatever its column is of. -/
def readOption {α : Type} [Scalar α] : Value → Option (Option α)
  | .null => some none
  | v => (Scalar.ofValue? v).map some

theorem readOption_ofOption {α : Type} [Scalar α] (a : Option α) :
    readOption (ofOption a) = some a := by
  cases a with
  | none => rfl
  | some a =>
    have value := Scalar.ofValue?_toValue a
    have notNull := Scalar.toValue_ne_null a
    simp only [ofOption]
    generalize Scalar.toValue a = v at value notNull
    cases v <;> simp_all [readOption]

instance {α : Type} [Scalar α] : Column (Option α) where
  toValue := ofOption
  ofValue? := readOption
  ofValue?_toValue := readOption_ofOption

/-- A row of an answer: the names of its columns, and what stands in them. -/
structure Row where
  cells : List (String × Value)
  deriving DecidableEq, Repr

namespace Row

/-- What stands under a name. Of several columns of that name it is the last. -/
def value? (row : Row) (name : String) : Option Value :=
  row.cells.reverse.lookup name

/-- Reads the column of a name. -/
def get {α : Type} [Column α] (row : Row) (name : String) : Except DatabaseError α :=
  match (row.value? name).bind Column.ofValue? with
  | some a => .ok a
  | none => .error (.badColumn name)

/-- Reads the first column. -/
def first {α : Type} [Column α] (row : Row) : Except DatabaseError α :=
  match (row.cells.head?.map Prod.snd).bind Column.ofValue? with
  | some a => .ok a
  | none => .error (.badColumn "0")

end Row

end Sql

end Couponry
