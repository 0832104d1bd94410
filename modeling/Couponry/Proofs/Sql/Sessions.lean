import Couponry.Proofs.Sql.Lookups

/-!
# Sessions on a shelf

What each call to the store of coupons gives, and what shelf it leaves, when a server executes its
statements. The hypotheses say of the shelves that are written only that no constraint is violated.
-/

namespace Couponry.Sql

open Coupons

/-! ## Statements in a session -/

/-- A server with a database, in a transaction if it is given what was there before it. -/
def Server.within (before : Option Database) (db : Database) : Server :=
  match before with
  | none => .of db
  | some kept => ⟨kept, .open db⟩

theorem Database.execute_of_fits {db after : Database} {c : Command} {outcome : Outcome}
    (done : db.perform c.params c.statement = .ok (outcome, after)) (fits : after.violated? = none) :
    db.execute c = (.ok outcome, after) := by
  simp only [Database.execute, done, fits]

theorem Database.execute_of_violated {db after : Database} {c : Command} {outcome : Outcome}
    {e : ServerError} (done : db.perform c.params c.statement = .ok (outcome, after))
    (violated : after.violated? = some e) : db.execute c = (.error (.refused e), db) := by
  simp only [Database.execute, done, violated]

theorem Server.execute_within (before : Option Database) {db after : Database} {c : Command}
    {outcome : Outcome} (done : db.execute c = (.ok outcome, after)) :
    (Server.within before db).execute c = (.ok outcome, .within before after) := by
  cases before <;> simp only [within, of, execute, done]

/-- What a program gives and leaves on a server. -/
def onServer {α : Type} (p : SessionProgram α) (s : Server) : α × Server :=
  p.run Server.answer s

theorem onServer_bind {α β : Type} (p : SessionProgram α) (f : α → SessionProgram β) (s : Server) :
    onServer (p >>= f) s = onServer (f (onServer p s).1) (onServer p s).2 :=
  Program.run_bind (S := SessionCalls) Server.answer p f s

/-- A program after one whose run is known. -/
theorem onServer_bind_of {α β : Type} {p : SessionProgram α} {s after : Server} {a : α}
    (first : onServer p s = (a, after)) (f : α → SessionProgram β) :
    onServer (p >>= f) s = onServer (f a) after := by
  rw [onServer_bind, first]

namespace Session

section Statement

variable {before : Option Database} {db after : Database} {c : Command} {outcome : Outcome}
  (done : db.execute c = (.ok outcome, after))
include done

theorem onServer_execute :
    onServer (execute c) (.within before db) = (.ok outcome, .within before after) :=
  Server.execute_within before done

theorem onServer_rows :
    onServer (rows c) (.within before db) = (.ok outcome.rows, .within before after) := by
  rw [rows, onServer_bind_of (onServer_execute done)]
  rfl

theorem onServer_affected :
    onServer (affected c) (.within before db) = (.ok outcome.affected, .within before after) := by
  rw [affected, onServer_bind_of (onServer_execute done)]
  rfl

theorem onServer_row? :
    onServer (row? c) (.within before db) = (.ok outcome.rows.head?, .within before after) := by
  rw [row?, onServer_bind_of (onServer_rows done)]
  rfl

variable {found : Row} (head : outcome.rows.head? = some found)
include head

theorem onServer_row : onServer (row c) (.within before db) = (.ok found, .within before after) := by
  rw [row, onServer_bind_of (onServer_row? done), head]
  rfl

theorem onServer_value {α : Type} [Column α] :
    onServer (value α c) (.within before db) = (found.first, .within before after) := by
  rw [value, onServer_bind_of (onServer_row done head)]
  rfl

end Statement

/-- A statement that is refused breaks off the transaction. -/
theorem onServer_value_of_refused {kept db : Database} {c : Command} {e : DatabaseError}
    (refused : db.execute c = (.error e, db)) (α : Type) [Column α] :
    onServer (value α c) (.within (some kept) db) = (.error e, ⟨kept, .aborted⟩) := by
  have executed : onServer (execute c) (.within (some kept) db) = (.error e, ⟨kept, .aborted⟩) := by
    show Server.execute ⟨kept, .open db⟩ c = _
    simp only [Server.execute, refused]
  have noRows : onServer (rows c) (.within (some kept) db) = (.error e, ⟨kept, .aborted⟩) :=
    onServer_bind_of executed _
  have noRow? : onServer (row? c) (.within (some kept) db) = (.error e, ⟨kept, .aborted⟩) :=
    onServer_bind_of noRows _
  have noRow : onServer (row c) (.within (some kept) db) = (.error e, ⟨kept, .aborted⟩) :=
    onServer_bind_of noRow? _
  exact onServer_bind_of noRow _

section Transaction

variable {ε α : Type} (wrap : DatabaseError → ε) {body : SessionProgram (Except ε α)} {db : Database}

/-- A body that succeeds is committed. -/
theorem onServer_transaction {after : Database} {a : α}
    (done : onServer body (.within (some db) db) = (.ok a, .within (some db) after)) :
    onServer (transaction wrap body) (.within none db) = (.ok a, .within none after) := by
  have began : onServer Session.begin (.within none db) = (.ok (), .within (some db) db) := rfl
  rw [transaction, onServer_bind_of began]
  exact onServer_bind_of done _

/-- A body that fails leaves nothing. -/
theorem onServer_transaction_error {left : Server} {e : ε}
    (failed : onServer body (.within (some db) db) = (.error e, left)) (kept : left.kept = db) :
    onServer (transaction wrap body) (.within none db) = (.error e, .within none db) := by
  have began : onServer Session.begin (.within none db) = (.ok (), .within (some db) db) := rfl
  rw [transaction, onServer_bind_of began, ← kept]
  exact onServer_bind_of (kept ▸ failed) _

end Transaction

end Session

end Couponry.Sql
