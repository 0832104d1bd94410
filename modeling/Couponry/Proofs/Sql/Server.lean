import Couponry.Sql.Session

/-!
# A server that executes statements

What the database server of the coupons does with the statements that it is sent: the tables and
their constraints, what a statement makes of them, and transactions. A statement that would leave a
constraint violated is refused and changes nothing; nothing else fails.
-/

namespace Couponry.Sql

/-- What stands under a name, where nothing is a null. -/
def Row.at (row : Row) (name : String) : Value :=
  (row.value? name).getD .null

/-- The number or the time comes before another. A null comes before nothing. -/
def Value.before : Value → Value → Bool
  | .int8 m, .int8 n => decide (m < n)
  | .int4 m, .int4 n => decide (m < n)
  | .time t, .time u => decide (t < u)
  | _, _ => false

/-- One more than a number. -/
def Value.next : Value → Value
  | .int8 n => .int8 (n + 1)
  | .int4 n => .int4 (n + 1)
  | _ => .null

/-- What a term gives in a row. -/
def Term.value (params : List Value) (row : Row) : Term → Value
  | .param number => params.getD (number - 1) .null
  | .literal n => .int8 n
  | .column name => row.at name
  | .next name => (row.at name).next

/-- The condition holds in a row. -/
def Condition.holds (params : List Value) (row : Row) : Condition → Bool
  | .equal left right =>
    decide (left.value params row ≠ .null) &&
      decide (left.value params row = right.value params row)
  | .less left right => (left.value params row).before (right.value params row)

/-! ## Tables -/

/-- A table of the coupons. -/
inductive TableName where
  | coupons
  | userCoupons
  | productCoupons
  | usedCoupons
  deriving DecidableEq, Repr

/-- What stands in a column for which nothing is given. -/
inductive Default where
  | null
  | number (n : Int)
  /-- The next number of the table. -/
  | serial
  deriving DecidableEq, Repr

/-- A column of a table. -/
structure ColumnRule where
  name : String
  default : Default
  /-- No null may stand in the column. -/
  required : Bool
  deriving DecidableEq, Repr

/-- A test on the rows of a table. It passes where a side is null. -/
inductive Check where
  | less (low high : String)
  | atMost (low high : String)
  deriving DecidableEq, Repr

/-- The row passes a test. -/
def Check.passes (row : Row) : Check → Bool
  | .less low high =>
    decide (row.at low = .null) || decide (row.at high = .null) || (row.at low).before (row.at high)
  | .atMost low high =>
    decide (row.at low = .null) || decide (row.at high = .null) ||
      !(row.at high).before (row.at low)

/-- What the rows of a table have to satisfy. -/
inductive Constraint where
  | required (column : String)
  | check (name : String) (test : Check)
  /-- No two rows have the same values in the columns. -/
  | unique (name : String) (columns : List String)
  /-- What stands in the column stands in a column of another table. A row goes with the row that it
  refers to. -/
  | references (name column : String) (parent : TableName) (key : String)
  deriving DecidableEq, Repr

/-- The columns of a table of grants, where `subject` is the column of the subjects. -/
def grantColumns (subject : String) : List ColumnRule :=
  [⟨"coupon_id", .null, true⟩, ⟨subject, .null, true⟩, ⟨"used", .number 0, true⟩,
    ⟨"total", .null, true⟩, ⟨"created_by", .null, true⟩, ⟨"created_at", .null, true⟩,
    ⟨"updated_at", .null, false⟩]

namespace TableName

/-- All tables. -/
def all : List TableName :=
  [.coupons, .userCoupons, .productCoupons, .usedCoupons]

/-- The name of a table in statements. -/
def text : TableName → String
  | .coupons => "coupons"
  | .userCoupons => "user_coupons"
  | .productCoupons => "product_coupons"
  | .usedCoupons => "used_coupons"

/-- The table that a statement names. -/
def ofText? (text : String) : Option TableName :=
  all.find? fun t => decide (t.text = text)

/-- The columns of a table. Every statement gives the time at which a row is made, so that it has no
default here. -/
def columns : TableName → List ColumnRule
  | .coupons =>
    [⟨"id", .serial, true⟩, ⟨"code", .null, true⟩, ⟨"valid_from", .null, true⟩,
      ⟨"valid_to", .null, true⟩, ⟨"discount_type", .null, true⟩, ⟨"discount_value", .null, true⟩,
      ⟨"scope", .null, true⟩, ⟨"used", .number 0, true⟩, ⟨"total", .null, false⟩,
      ⟨"description", .null, false⟩, ⟨"image_url", .null, false⟩, ⟨"created_by", .null, true⟩,
      ⟨"created_at", .null, true⟩, ⟨"updated_at", .null, false⟩]
  | .userCoupons => grantColumns "user_id"
  | .productCoupons => grantColumns "product_id"
  | .usedCoupons =>
    [⟨"id", .serial, true⟩, ⟨"coupon_id", .null, true⟩, ⟨"user_id", .null, true⟩,
      ⟨"product_id", .null, false⟩, ⟨"created_at", .null, true⟩]

/-- The constraints of a table that have a name. -/
def named : TableName → List Constraint
  | .coupons =>
    [.check "coupon_window" (.less "valid_from" "valid_to"),
      .check "coupon_usage" (.atMost "used" "total"), .unique "coupons_pkey" ["id"],
      .unique "unique_coupon_code" ["code"]]
  | .userCoupons =>
    [.check "user_coupon_usage" (.atMost "used" "total"),
      .unique "user_coupons_pkey" ["coupon_id", "user_id"],
      .references "user_coupons_coupon_id_fkey" "coupon_id" .coupons "id"]
  | .productCoupons =>
    [.check "product_coupon_usage" (.atMost "used" "total"),
      .unique "product_coupons_pkey" ["coupon_id", "product_id"],
      .references "product_coupons_coupon_id_fkey" "coupon_id" .coupons "id"]
  | .usedCoupons => [.unique "used_coupons_pkey" ["id"]]

/-- The constraints of a table: first the columns that need a value, then those that have a name. -/
def constraints (t : TableName) : List Constraint :=
  ((t.columns.filter ColumnRule.required).map fun c => .required c.name) ++ t.named

end TableName

/-- What the server says of a statement that would leave a constraint of a table violated. -/
def Constraint.error (t : TableName) : Constraint → ServerError
  | .required column =>
    ⟨"23502",
      s!"null value in column \"{column}\" of relation \"{t.text}\" violates not-null constraint",
      none⟩
  | .check name _ =>
    ⟨"23514", s!"new row for relation \"{t.text}\" violates check constraint \"{name}\"", some name⟩
  | .unique name _ =>
    ⟨"23505", s!"duplicate key value violates unique constraint \"{name}\"", some name⟩
  | .references name _ _ _ =>
    ⟨"23503",
      s!"insert or update on table \"{t.text}\" violates foreign key constraint \"{name}\"",
      some name⟩

/-! ## Databases -/

/-- What is in a table. -/
structure Relation where
  rows : List Row
  /-- The last number that was given to a row. -/
  last : Int
  deriving DecidableEq, Repr

/-- What is in all tables. -/
structure Database where
  coupons : Relation
  userCoupons : Relation
  productCoupons : Relation
  usedCoupons : Relation
  deriving DecidableEq, Repr

namespace Database

/-- Nothing is stored. -/
def empty : Database :=
  ⟨⟨[], 0⟩, ⟨[], 0⟩, ⟨[], 0⟩, ⟨[], 0⟩⟩

/-- What is in a table. -/
def relation (db : Database) : TableName → Relation
  | .coupons => db.coupons
  | .userCoupons => db.userCoupons
  | .productCoupons => db.productCoupons
  | .usedCoupons => db.usedCoupons

/-- The database with something else in a table. -/
def set (db : Database) (t : TableName) (r : Relation) : Database :=
  match t with
  | .coupons => { db with coupons := r }
  | .userCoupons => { db with userCoupons := r }
  | .productCoupons => { db with productCoupons := r }
  | .usedCoupons => { db with usedCoupons := r }

/-- The database with the rows that pass a test. -/
def keepRows (db : Database) (test : TableName → Row → Bool) : Database :=
  let keep (t : TableName) : Relation :=
    { db.relation t with rows := (db.relation t).rows.filter (test t) }
  ⟨keep .coupons, keep .userCoupons, keep .productCoupons, keep .usedCoupons⟩

/-- The rows of a table satisfy a constraint. Rows with a null in a key are all different, and refer
to nothing. -/
def satisfies (db : Database) (t : TableName) : Constraint → Bool
  | .required column => (db.relation t).rows.all fun row => decide (row.at column ≠ .null)
  | .check _ test => (db.relation t).rows.all test.passes
  | .unique _ columns =>
    let keys := (db.relation t).rows.map fun row => columns.map row.at
    decide (keys.filter fun key => decide (.null ∉ key)).Nodup
  | .references _ column parent key =>
    (db.relation t).rows.all fun row =>
      decide (row.at column = .null) ||
        (db.relation parent).rows.any fun other => decide (other.at key = row.at column)

/-- The first constraint of a table that is violated. -/
def violatedIn? (db : Database) (t : TableName) : Option Constraint :=
  t.constraints.find? fun c => !db.satisfies t c

/-- What is wrong with the database, if anything is. -/
def violated? (db : Database) : Option ServerError :=
  TableName.all.findSome? fun t => (db.violatedIn? t).map (Constraint.error t)

end Database

/-! ## Statements -/

/-- What stands in a column for which nothing is given, where `last` is the last number of the
table. -/
def Default.value (last : Int) : Default → Value
  | .null => .null
  | .number n => .int8 n
  | .serial => .int8 (last + 1)

/-- The row that an insert makes. -/
def Relation.newRow (r : Relation) (t : TableName) (cells : List (String × Term))
    (params : List Value) : Row :=
  ⟨t.columns.map fun c => (c.name,
    match cells.lookup c.name with
    | some term => term.value params ⟨[]⟩
    | none => c.default.value r.last)⟩

/-- A table with one more row, which takes a number if the table gives numbers. -/
def Relation.add (r : Relation) (t : TableName) (row : Row) : Relation where
  rows := r.rows ++ [row]
  last := if t.columns.any fun c => decide (c.default = .serial) then r.last + 1 else r.last

namespace Row

/-- The row with what changes give in it. -/
def change (row : Row) (changes : List (String × Term)) (params : List Value) : Row :=
  ⟨row.cells.map fun c => (c.1,
    match changes.lookup c.1 with
    | some term => term.value params row
    | none => c.2)⟩

/-- All conditions hold in the row. -/
def meets (row : Row) (conditions : List Condition) (params : List Value) : Bool :=
  conditions.all fun c => c.holds params row

/-- What a column is called in an answer: without the short name of its table. -/
def label (column : String) : String :=
  match column.toList.dropWhile (· ≠ '.') with
  | _ :: name => String.ofList name
  | [] => column

/-- The columns of the row that an answer has. -/
def project (row : Row) (columns : List String) : Row :=
  ⟨columns.map fun c => (label c, row.at c)⟩

/-- The columns of the row with the short name of its table. -/
def qualify (row : Row) (name : String) : List (String × Value) :=
  row.cells.map fun c => (name ++ "." ++ c.1, c.2)

/-- The row comes before another, or is level with it, in the order of columns. -/
def inOrder (columns : List String) (row other : Row) : Bool :=
  match columns with
  | [] => true
  | c :: rest =>
    (row.at c).before (other.at c) || decide (row.at c = other.at c) && inOrder rest row other

end Row

/-- The rows in the order of columns, or as they are if there are none. -/
def sorted (columns : List String) (rows : List Row) : List Row :=
  match columns with
  | [] => rows
  | _ => rows.mergeSort (Row.inOrder columns)

/-- The constraint makes a row go with one of the rows that are removed from a table. -/
def Constraint.carries (parent : TableName) (removed : List Row) (row : Row) : Constraint → Bool
  | .references _ column p key =>
    decide (p = parent) && removed.any fun gone => decide (row.at column = gone.at key)
  | _ => false

namespace Database

/-- What the server says of a table that it does not have. -/
def unknownTable (name : String) : ServerError :=
  ⟨"42P01", s!"relation \"{name}\" does not exist", none⟩

/-- The table of a name. -/
def table (name : String) : Except ServerError TableName :=
  match TableName.ofText? name with
  | some t => .ok t
  | none => .error (unknownTable name)

/-- The rows that a source gives. -/
def sourceRows (db : Database) (params : List Value) : Source → Except ServerError (List Row)
  | .table name => do
    let t ← table name
    return (db.relation t).rows
  | .join left leftName right rightName on => do
    let l ← table left
    let r ← table right
    return (db.relation l).rows.flatMap fun a =>
      ((db.relation r).rows.map fun b =>
        ⟨a.qualify leftName ++ b.qualify rightName⟩).filter fun row => on.holds params row

/-- The database without the rows of a table that pass a test, and without all that goes with
them. -/
def remove (db : Database) (t : TableName) (hit : Row → Bool) : Database :=
  let removed := (db.relation t).rows.filter hit
  db.keepRows fun u row =>
    if u = t then !hit row else !u.constraints.any (Constraint.carries t removed row)

/-- What a statement gives, and what it makes of the database. -/
def perform (db : Database) (params : List Value) :
    Statement → Except ServerError (Outcome × Database)
  | .insert name cells returning => do
    let t ← table name
    let r := db.relation t
    let row := r.newRow t cells params
    let answer := if returning.isEmpty then [] else [row.project returning]
    return (⟨answer, 1⟩, db.set t (r.add t row))
  | .update name changes conditions => do
    let t ← table name
    let r := db.relation t
    let hit (row : Row) : Bool := row.meets conditions params
    let rows := r.rows.map fun row => if hit row then row.change changes params else row
    return (⟨[], r.rows.countP hit⟩, db.set t { r with rows := rows })
  | .delete name conditions => do
    let t ← table name
    let hit (row : Row) : Bool := row.meets conditions params
    return (⟨[], (db.relation t).rows.countP hit⟩, db.remove t hit)
  | .select columns source conditions order => do
    let rows ← db.sourceRows params source
    let found := rows.filter fun row => row.meets conditions params
    return (⟨(sorted order found).map fun row => row.project columns, found.length⟩, db)
  | .probe name conditions => do
    let t ← table name
    let found := (db.relation t).rows.any fun row => row.meets conditions params
    return (⟨[⟨[("exists", .bool found)]⟩], 1⟩, db)

/-- The answer to a statement, and the database after it. -/
def execute (db : Database) (c : Command) : Except DatabaseError Outcome × Database :=
  match db.perform c.params c.statement with
  | .error e => (.error (.refused e), db)
  | .ok (outcome, after) =>
    match after.violated? with
    | some e => (.error (.refused e), db)
    | none => (.ok outcome, after)

end Database

/-! ## Transactions -/

/-- The state of a session. -/
inductive Transaction where
  | closed
  /-- A transaction was begun, in which the database is this one. -/
  | open (draft : Database)
  /-- A statement of the transaction was refused: it can only be left. -/
  | aborted
  deriving DecidableEq, Repr

/-- A server with one session. -/
structure Server where
  /-- What was committed. -/
  kept : Database
  transaction : Transaction
  deriving DecidableEq, Repr

namespace Server

/-- A server with a database, and no transaction. -/
def of (db : Database) : Server :=
  ⟨db, .closed⟩

/-- Begins a transaction, unless one is open. -/
def begin (s : Server) : Server :=
  match s.transaction with
  | .closed => { s with transaction := .open s.kept }
  | .open _ | .aborted => s

/-- Keeps what the transaction wrote, unless a statement of it was refused. -/
def commit (s : Server) : Server :=
  match s.transaction with
  | .open draft => of draft
  | .closed | .aborted => of s.kept

/-- Discards what the transaction wrote. -/
def leave (s : Server) : Server :=
  of s.kept

/-- What the server says in a transaction of which a statement was refused. -/
def ignored : ServerError :=
  ⟨"25P02", "current transaction is aborted, commands ignored until end of transaction block", none⟩

/-- Executes a statement, in the transaction if one is open. -/
def execute (s : Server) (c : Command) : Except DatabaseError Outcome × Server :=
  match s.transaction with
  | .closed => ((s.kept.execute c).1, of (s.kept.execute c).2)
  | .open draft =>
    match draft.execute c with
    | (.ok outcome, after) => (.ok outcome, { s with transaction := .open after })
    | (.error e, _) => (.error e, { s with transaction := .aborted })
  | .aborted => (.error (.refused ignored), s)

/-- Answers a call in a session. -/
def answer : (c : SessionCall) → Server → c.Answer × Server
  | .begin, s => (.ok (), s.begin)
  | .commit, s => (.ok (), s.commit)
  | .rollback, s => (.ok (), s.leave)
  | .abandon, s => ((), s.leave)
  | .execute c, s => s.execute c

end Server

end Couponry.Sql
