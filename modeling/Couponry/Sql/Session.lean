import Couponry.Program
import Couponry.Sql.Statement

/-!
# Sessions with a server

The calls by which a store talks to a database server. A transaction is begun, and in the end
either committed or left; `transaction` does both around a body, and commits only if the body
succeeds. What was written in a transaction that is left, or whose end failed, the server
discards.
-/

namespace Couponry.Sql

/-- What a server answers to a statement. -/
structure Outcome where
  rows : List Row
  /-- How many rows the statement touched. -/
  affected : Nat
  deriving DecidableEq, Repr

/-- A call in a session. -/
inductive SessionCall where
  | begin
  | commit
  | rollback
  /-- Leaves a transaction that was begun and is not ended. -/
  | abandon
  | execute (command : Command)
  deriving DecidableEq, Repr

/-- What is answered to a call in a session. -/
def SessionCall.Answer : SessionCall → Type
  | .begin | .commit | .rollback => Except DatabaseError Unit
  | .abandon => Unit
  | .execute _ => Except DatabaseError Outcome

/-- The calls in a session. -/
def SessionCalls : Signature where
  Call := SessionCall
  Answer := SessionCall.Answer

/-- A program that talks to a server. -/
abbrev SessionProgram (α : Type) : Type :=
  Program SessionCalls α

namespace Session

/-- Begins a transaction. -/
def begin : SessionProgram (Except DatabaseError Unit) :=
  Program.call (S := SessionCalls) .begin

/-- Asks for a commit. -/
def requestCommit : SessionProgram (Except DatabaseError Unit) :=
  Program.call (S := SessionCalls) .commit

/-- Asks for a rollback. -/
def requestRollback : SessionProgram (Except DatabaseError Unit) :=
  Program.call (S := SessionCalls) .rollback

/-- Leaves the open transaction. -/
def abandon : SessionProgram Unit :=
  Program.call (S := SessionCalls) .abandon

/-- Executes a statement. -/
def execute (command : Command) : SessionProgram (Except DatabaseError Outcome) :=
  Program.call (S := SessionCalls) (.execute command)

/-- Leaves the transaction if its end failed. -/
def ended (answer : Except DatabaseError Unit) : SessionProgram (Except DatabaseError Unit) := do
  match answer with
  | .ok () => return .ok ()
  | .error e =>
    abandon
    return .error e

/-- Commits the open transaction. -/
def commit : SessionProgram (Except DatabaseError Unit) := do
  ended (← requestCommit)

/-- Rolls the open transaction back. -/
def rollback : SessionProgram (Except DatabaseError Unit) := do
  ended (← requestRollback)

/-- The rows that a statement gives. -/
def rows (command : Command) : SessionProgram (Except DatabaseError (List Row)) := do
  match ← execute command with
  | .ok outcome => return .ok outcome.rows
  | .error e => return .error e

/-- The first row that a statement gives, if any. -/
def row? (command : Command) : SessionProgram (Except DatabaseError (Option Row)) := do
  match ← rows command with
  | .ok rows => return .ok rows.head?
  | .error e => return .error e

/-- The first row that a statement gives. -/
def row (command : Command) : SessionProgram (Except DatabaseError Row) := do
  match ← row? command with
  | .ok (some row) => return .ok row
  | .ok none => return .error .rowNotFound
  | .error e => return .error e

/-- The value in the first column of the first row. -/
def value (α : Type) [Column α] (command : Command) : SessionProgram (Except DatabaseError α) := do
  match ← row command with
  | .ok row => return row.first
  | .error e => return .error e

/-- How many rows a statement touches. -/
def affected (command : Command) : SessionProgram (Except DatabaseError Nat) := do
  match ← execute command with
  | .ok outcome => return .ok outcome.affected
  | .error e => return .error e

/-- Does something in a transaction, and commits it unless the body fails. -/
def transaction {ε α : Type} (wrap : DatabaseError → ε)
    (body : SessionProgram (Except ε α)) : SessionProgram (Except ε α) := do
  match ← begin with
  | .error e => return .error (wrap e)
  | .ok () =>
    match ← body with
    | .error e =>
      abandon
      return .error e
    | .ok a =>
      match ← commit with
      | .error e => return .error (wrap e)
      | .ok () => return .ok a

end Session

end Couponry.Sql
