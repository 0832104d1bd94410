import Couponry.Sql.Session
import Couponry.Table

/-!
# Scripted servers

A database server that answers from a script, and the server that nobody can reach. On the way to
a server and back a time is cut off to the microsecond, toward the start of the year 2000. The
columns of a statement are those of its first reply on a connection: what later replies call them
is not looked at.
-/

namespace Couponry.Sql

/-- What arrives of a value on the other side. -/
def Value.transmitted : Value → Value
  | .time t => .time (.ofMicros t.micros)
  | v => v

/-- What arrives of a statement. -/
def Command.transmitted (c : Command) : Command :=
  { c with params := c.params.map Value.transmitted }

/-- The names and types of the columns that a statement gives. -/
abbrev Description : Type :=
  List (String × ColumnType)

/-- What arrives of the values of a row, where the columns are known by a description. -/
def Description.row (d : Description) (values : List Value) : Row :=
  ⟨List.zipWith (fun c v => (c.1, (Value.transmitted v).through c.2)) d values⟩

/-- What a server does with a statement. -/
inductive Reply where
  | rows (columns : Description) (rows : List (List Value))
  | affected (count : Nat)
  | refused (error : ServerError)
  deriving DecidableEq, Repr

/-- The columns that come with a reply. -/
def Reply.description : Reply → Description
  | .rows columns _ => columns
  | .affected _ | .refused _ => []

/-- What a server is sent. -/
inductive Sent where
  | begin
  | commit
  | rollback
  | command (c : Command)
  deriving DecidableEq, Repr

/-- What a server will do, and what it was sent. -/
structure Script where
  /-- The replies to statements, in order. -/
  replies : List Reply
  beginError : Option ServerError
  commitError : Option ServerError
  rollbackError : Option ServerError
  sent : List Sent
  /-- The columns of the statements that were executed before on the connection. -/
  prepared : Table Statement Description
  deriving DecidableEq, Repr

namespace Script

/-- The script after something was sent. -/
def receive (s : Script) (what : Sent) : Script :=
  { s with sent := s.sent ++ [what] }

/-- What a refusal makes of an answer. -/
def acknowledge : Option ServerError → Except DatabaseError Unit
  | some e => .error (.refused e)
  | none => .ok ()

/-- The columns of a statement are described once, with the reply to its first execution. -/
def prepare (s : Script) (statement : Statement) (reply : Reply) : Description × Script :=
  match s.prepared.get? statement with
  | some d => (d, s)
  | none =>
    let d := reply.description
    (d, { s with prepared := s.prepared.insert statement d })

/-- What arrives of a reply, where the columns are known by a description. -/
def outcome (d : Description) : Reply → Except DatabaseError Outcome
  | .rows _ rows => .ok ⟨rows.map d.row, rows.length⟩
  | .affected count => .ok ⟨[], count⟩
  | .refused e => .error (.refused e)

/-- The reply to a statement. After the last reply the connection is lost. -/
def reply (c : Command) (s : Script) : Except DatabaseError Outcome × Script :=
  match s.replies with
  | [] => (.error .unreachable, s)
  | reply :: rest =>
    let (d, s) := { s with replies := rest }.prepare c.statement reply
    (outcome d reply, s)

/-- Leaves a transaction by rolling it back. Where the server refuses, the connection is given up
for a new one. -/
def abandon (s : Script) : Script :=
  let s := s.receive .rollback
  if s.rollbackError.isSome then { s with prepared := .empty } else s

/-- Answers a call in a session. -/
def answer : (c : SessionCall) → Script → c.Answer × Script
  | .begin, s => (acknowledge s.beginError, s.receive .begin)
  | .commit, s => (acknowledge s.commitError, s.receive .commit)
  | .rollback, s => (acknowledge s.rollbackError, s.receive .rollback)
  | .abandon, s => ((), s.abandon)
  | .execute c, s => (s.receive (.command c.transmitted)).reply c

end Script

/-- Answers a call in a session with a server that nobody can reach. -/
def answerUnreachable {σ : Type} : (c : SessionCall) → σ → c.Answer × σ
  | .begin, s | .commit, s | .rollback, s => (.error .unreachable, s)
  | .abandon, s => ((), s)
  | .execute _, s => (.error .unreachable, s)

end Couponry.Sql
