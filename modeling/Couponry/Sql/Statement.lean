import Couponry.Sql.Value

/-!
# Statements

The statements that the stores send, as terms, and their text. A statement names its parameters by
number; `Command` is a statement with their values.
-/

namespace Couponry.Sql

open Couponry.Text

/-- What is computed in a row. -/
inductive Term where
  /-- The value of a parameter. The first is number one. -/
  | param (number : Nat)
  | literal (n : Int)
  | column (name : String)
  /-- One more than what stands in a column. -/
  | next (name : String)
  deriving DecidableEq, Repr

/-- The text of a term. -/
def Term.text : Term → String
  | .param number => "$" ++ integer number
  | .literal n => integer n
  | .column name => name
  | .next name => name ++ " + 1"

/-- A condition on a row. It does not hold where a side is null. -/
inductive Condition where
  | equal (left right : Term)
  | less (left right : Term)
  deriving DecidableEq, Repr

/-- The text of a condition. -/
def Condition.text : Condition → String
  | .equal left right => left.text ++ " = " ++ right.text
  | .less left right => left.text ++ " < " ++ right.text

/-- The column holds the value of the parameter. -/
def Condition.columnIs (column : String) (param : Nat) : Condition :=
  .equal (.column column) (.param param)

/-- Where rows are taken from. -/
inductive Source where
  | table (name : String)
  /-- The pairs of rows of two tables for which a condition holds. Columns are named after the
  short names of the tables. -/
  | join (left leftName right rightName : String) (on : Condition)
  deriving DecidableEq, Repr

/-- The text of a source. -/
def Source.text : Source → String
  | .table name => name
  | .join left leftName right rightName on =>
    s!"{left} {leftName} JOIN {right} {rightName} ON {on.text}"

/-- A statement. -/
inductive Statement where
  /-- Adds a row with what is given for some columns, and gives back some columns of it. -/
  | insert (table : String) (cells : List (String × Term)) (returning : List String)
  /-- Changes columns of the rows for which all conditions hold. -/
  | update (table : String) (changes : List (String × Term)) (conditions : List Condition)
  /-- Removes the rows for which all conditions hold. -/
  | delete (table : String) (conditions : List Condition)
  /-- Gives columns of the rows for which all conditions hold, sorted upward by columns. -/
  | select (columns : List String) (source : Source) (conditions : List Condition)
    (order : List String)
  /-- Says whether there is a row for which all conditions hold. -/
  | probe (table : String) (conditions : List Condition)
  deriving DecidableEq, Repr

/-- Texts with commas between them. -/
def commaSeparated (texts : List String) : String :=
  String.intercalate ", " texts

/-- All conditions of a statement. -/
def whereText (conditions : List Condition) : String :=
  " WHERE " ++ String.intercalate " AND " (conditions.map Condition.text)

/-- The columns by which a statement sorts, if any. -/
def orderText : List String → String
  | [] => ""
  | columns => " ORDER BY " ++ commaSeparated (columns.map (· ++ " ASC"))

/-- The columns that a statement gives back, if any. -/
def returningText : List String → String
  | [] => ""
  | columns => " RETURNING " ++ commaSeparated columns

/-- The text of a statement. -/
def Statement.text : Statement → String
  | .insert table cells returning =>
    s!"INSERT INTO {table} (" ++ commaSeparated (cells.map Prod.fst) ++ ") VALUES (" ++
      commaSeparated (cells.map fun c => c.2.text) ++ ")" ++ returningText returning
  | .update table changes conditions =>
    s!"UPDATE {table} SET " ++
      commaSeparated (changes.map fun c => c.1 ++ " = " ++ c.2.text) ++ whereText conditions
  | .delete table conditions => s!"DELETE FROM {table}" ++ whereText conditions
  | .select columns source conditions order =>
    "SELECT " ++ commaSeparated columns ++ " FROM " ++ source.text ++ whereText conditions ++
      orderText order
  | .probe table conditions =>
    s!"SELECT EXISTS(SELECT 1 FROM {table}" ++ whereText conditions ++ ")"

/-- A statement with the values of its parameters. -/
structure Command where
  statement : Statement
  params : List Value
  deriving DecidableEq, Repr

/-- What is bound to a parameter. -/
def bind {α : Type} [Column α] (a : α) : Value :=
  Column.toValue a

end Couponry.Sql
