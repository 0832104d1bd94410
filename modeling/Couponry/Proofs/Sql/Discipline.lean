import Couponry.Proofs.Program.Conversation
import Couponry.Proofs.Sql.Writes
import Mathlib.Data.List.Basic

/-!
# The discipline of transactions

Whatever a server answers, statement by statement, a coupon is created and redeemed in one transaction,
which is committed only if all its statements succeeded. `disciplined` says so of every conversation,
and what a server keeps of it that discards the writes of a transaction which was not committed.
-/

namespace Couponry.Sql

open Coupons

/-- A statement that succeeded, with its outcome. -/
structure Write where
  command : Command
  outcome : Outcome

/-- What was sent in a session, and what was answered. -/
abbrev SessionExchange : Type :=
  Exchange SessionCalls.Answer

namespace SessionExchange

/-- The start of a transaction. -/
@[match_pattern] def begin (answer : Except DatabaseError Unit) : SessionExchange :=
  ⟨.begin, answer⟩

/-- A statement. -/
@[match_pattern] def execute (c : Command) (answer : Except DatabaseError Outcome) : SessionExchange :=
  ⟨.execute c, answer⟩

/-- The request for a commit. -/
@[match_pattern] def commit (answer : Except DatabaseError Unit) : SessionExchange :=
  ⟨.commit, answer⟩

/-- The end of a transaction that is left. -/
@[match_pattern] def abandon : SessionExchange :=
  ⟨.abandon, ()⟩

end SessionExchange

/-- The exchange in which a statement succeeded. -/
def Write.exchange (w : Write) : SessionExchange :=
  .execute w.command (.ok w.outcome)

/-- Nothing was sent but statements. -/
def Statements (log : List SessionExchange) : Prop :=
  ∀ e ∈ log, ∃ c answer, e = .execute c answer

theorem Statements.nil : Statements [] :=
  fun _ sent => absurd sent List.not_mem_nil

theorem Statements.append {log rest : List SessionExchange} (first : Statements log)
    (second : Statements rest) : Statements (log ++ rest) := by
  intro e sent
  rcases List.mem_append.1 sent with sent | sent
  · exact first e sent
  · exact second e sent

/-! ## What a server keeps -/

/-- What is written for good, and what is written in the open transaction, if there is one. -/
structure Standing where
  kept : List Write
  pending : Option (List Write)

namespace Standing

/-- After an exchange. A transaction that is left is discarded with its writes; of one whose commit
failed it may be that it was `carried` out nevertheless. -/
def after (carried : Bool) (s : Standing) : SessionExchange → Standing
  | .begin (.ok ()) => { s with pending := some [] }
  | .begin (.error _) => s
  | .execute c (.ok outcome) =>
    match s.pending with
    | none => { s with kept := s.kept ++ [⟨c, outcome⟩] }
    | some writes => { s with pending := some (writes ++ [⟨c, outcome⟩]) }
  | .execute _ (.error _) => s
  | .commit (.ok ()) => ⟨s.kept ++ s.pending.getD [], none⟩
  | .commit (.error _) => ⟨if carried then s.kept ++ s.pending.getD [] else s.kept, none⟩
  | ⟨.rollback, _⟩ | .abandon => { s with pending := none }

end Standing

/-- What a server has written for good when a conversation is over. -/
def kept (carried : Bool) (log : List SessionExchange) : List Write :=
  (log.foldl (Standing.after carried) ⟨[], none⟩).kept

theorem foldl_writes (carried : Bool) (before pending : List Write) (writes : List Write) :
    (writes.map Write.exchange).foldl (Standing.after carried) ⟨before, some pending⟩ =
      ⟨before, some (pending ++ writes)⟩ := by
  induction writes generalizing pending with
  | nil => simp
  | cons w writes ih =>
    rw [List.map_cons, List.foldl_cons]
    have step : Standing.after carried ⟨before, some pending⟩ w.exchange =
        ⟨before, some (pending ++ [w])⟩ := rfl
    rw [step, ih, List.append_assoc, List.singleton_append]

/-- Statements in a transaction write nothing for good. -/
theorem foldl_statements (carried : Bool) {log : List SessionExchange}
    (statements : Statements log) (before pending : List Write) :
    ∃ writes, log.foldl (Standing.after carried) ⟨before, some pending⟩ = ⟨before, some writes⟩ := by
  induction log generalizing pending with
  | nil => exact ⟨pending, rfl⟩
  | cons e log ih =>
    obtain ⟨c, answer, rfl⟩ := statements e List.mem_cons_self
    have rest := ih fun e later => statements e (List.mem_cons_of_mem _ later)
    cases answer with
    | error failure => exact rest pending
    | ok outcome => exact rest (pending ++ [⟨c, outcome⟩])

/-! ## Transactions -/

section Transaction

variable {ε α : Type}

/-- A conversation in which writes are committed together or not at all. `Writes a` says which writes
there have to be for the result `a`. -/
structure Disciplined (Writes : α → List Write → Prop) (log : List SessionExchange)
    (result : Except ε α) : Prop where
  /-- A commit is asked for only after a transaction was begun and all that it has to write was
  written. Nothing else was sent before, and no commit is asked for again. -/
  commit : ∀ before answer after, log = before ++ .commit answer :: after →
    (∃ a writes, Writes a writes ∧ before = .begin (.ok ()) :: writes.map Write.exchange) ∧
      ∀ again, .commit again ∉ after
  /-- The call succeeds just when a commit was acknowledged. -/
  acknowledged : (∃ a, result = .ok a) ↔ .commit (.ok ()) ∈ log
  /-- A call that succeeds has written all that it has to write. -/
  done : ∀ carried a, result = .ok a → Writes a (kept carried log)
  /-- A call that fails has written nothing, unless its commit was carried out all the same. -/
  failed : ∀ e, result = .error e → kept false log = []
  /-- In any case it is all or nothing. -/
  whole : ∀ carried, kept carried log = [] ∨ ∃ a, Writes a (kept carried log)

/-- How a transaction can go. -/
inductive Course (Writes : α → List Write → Prop) : List SessionExchange → Except ε α → Prop where
  | unsent (e : ε) : Course Writes [] (.error e)
  | refused (failure : DatabaseError) (e : ε) : Course Writes [.begin (.error failure)] (.error e)
  | abandoned (tried : List SessionExchange) (statements : Statements tried)
      (e : ε) : Course Writes (.begin (.ok ()) :: tried ++ [.abandon]) (.error e)
  | committed (a : α) (writes : List Write) (all : Writes a writes) :
      Course Writes (.begin (.ok ()) :: writes.map Write.exchange ++ [.commit (.ok ())]) (.ok a)
  | unacknowledged (a : α) (writes : List Write) (all : Writes a writes) (failure : DatabaseError)
      (e : ε) : Course Writes
        (.begin (.ok ()) :: writes.map Write.exchange ++ [.commit (.error failure), .abandon])
        (.error e)

/-- What the body of a transaction leaves: all its writes, or statements that came to nothing. -/
def Written (Writes : α → List Write → Prop) (log : List SessionExchange) : Except ε α → Prop
  | .ok a => ∃ writes, log = writes.map Write.exchange ∧ Writes a writes
  | .error _ => Statements log

variable {Writes : α → List Write → Prop}

/-- A transaction commits what its body has written, and only that. -/
theorem converses_transaction {body : SessionProgram (Except ε α)} (talk : body.Converses (Written Writes))
    (wrap : DatabaseError → ε) : (Session.transaction wrap body).Converses (Course Writes) := by
  intro began
  cases began with
  | error failure => exact .refused failure _
  | ok _ =>
    refine talk.bind fun log result written => ?_
    cases result with
    | error e => exact fun _ => .abandoned log written e
    | ok a =>
      obtain ⟨writes, rfl, all⟩ := written
      intro answer
      cases answer with
      | ok _ => exact .committed a writes all
      | error failure => exact fun _ => .unacknowledged a writes all failure _

/-! ## What comes of a transaction -/

theorem not_commit_of_writes (writes : List Write) (answer : Except DatabaseError Unit) :
    .commit answer ∉ SessionExchange.begin (.ok ()) :: writes.map Write.exchange := by
  intro sent
  rcases List.mem_cons.1 sent with same | sent
  · cases same
  · obtain ⟨w, -, same⟩ := List.mem_map.1 sent
    cases same

theorem not_commit_of_abandoned {tried : List SessionExchange}
    (statements : Statements tried) (answer : Except DatabaseError Unit) :
    .commit answer ∉ SessionExchange.begin (.ok ()) :: tried ++ [.abandon] := by
  intro sent
  rcases List.mem_append.1 sent with sent | sent
  · rcases List.mem_cons.1 sent with same | sent
    · cases same
    · obtain ⟨c, answer, same⟩ := statements _ sent
      cases same
  · cases List.mem_singleton.1 sent

/-- The writes of a transaction that was to be committed stand or fall with its commit. -/
theorem kept_committed (carried : Bool) (writes : List Write) (answer : Except DatabaseError Unit)
    (rest : List SessionExchange) :
    kept carried (.begin (.ok ()) :: writes.map Write.exchange ++ .commit answer :: rest) =
      (rest.foldl (Standing.after carried)
        (Standing.after carried ⟨[], some writes⟩ (.commit answer))).kept := by
  have begun : Standing.after carried ⟨[], none⟩ (.begin (.ok ())) = ⟨[], some []⟩ := rfl
  rw [kept, List.foldl_append, List.foldl_cons, List.foldl_cons, begun, foldl_writes, List.nil_append]

/-- A transaction that is left writes nothing. -/
theorem kept_abandoned (carried : Bool) {tried : List SessionExchange}
    (statements : Statements tried) :
    kept carried (.begin (.ok ()) :: tried ++ [.abandon]) = [] := by
  have begun : Standing.after carried ⟨[], none⟩ (.begin (.ok ())) = ⟨[], some []⟩ := rfl
  obtain ⟨writes, pending⟩ := foldl_statements carried statements [] []
  rw [kept, List.foldl_append, List.foldl_cons, List.foldl_cons, begun, pending]
  rfl

namespace Course

variable {log : List SessionExchange} {result : Except ε α}

/-- The one commit in the conversation of a transaction that was to be committed. -/
theorem commit_of_split {a : α} {writes : List Write} (all : Writes a writes)
    {answer answer' : Except DatabaseError Unit} {before rest after : List SessionExchange}
    (alone : ∀ again, .commit again ∉ rest)
    (split : .begin (.ok ()) :: writes.map Write.exchange ++ .commit answer :: rest =
      before ++ .commit answer' :: after) :
    (∃ a writes, Writes a writes ∧ before = .begin (.ok ()) :: writes.map Write.exchange) ∧
      ∀ again, .commit again ∉ after := by
  obtain ⟨rfl, -, rfl⟩ :=
    (List.append_cons_inj_of_notMem (not_commit_of_writes writes answer') (alone answer')).1 split
  exact ⟨⟨a, writes, all, rfl⟩, alone⟩

/-- A conversation without a commit, of which nothing is kept. -/
theorem disciplined_of_uncommitted (e : ε) (uncommitted : ∀ answer, .commit answer ∉ log)
    (nothing : ∀ carried, kept carried log = []) : Disciplined Writes log (.error e) := by
  constructor
  · intro before answer after split
    refine absurd ?_ (uncommitted answer)
    rw [split]
    exact List.mem_append_right _ List.mem_cons_self
  · exact iff_of_false (by rintro ⟨a, ⟨⟩⟩) (uncommitted _)
  · rintro carried a ⟨⟩
  · exact fun _ _ => nothing false
  · exact fun carried => .inl (nothing carried)

/-- However a transaction goes, its writes are committed together or not at all. -/
theorem keeps_discipline (course : Course Writes log result) : Disciplined Writes log result := by
  cases course with
  | unsent e => exact disciplined_of_uncommitted e (fun _ => List.not_mem_nil) fun _ => rfl
  | refused failure e =>
    refine disciplined_of_uncommitted e (fun answer sent => ?_) fun _ => rfl
    cases List.mem_singleton.1 sent
  | abandoned tried statements e =>
    exact disciplined_of_uncommitted e (not_commit_of_abandoned statements) fun carried =>
      kept_abandoned carried statements
  | committed a writes all =>
    constructor
    · intro before answer after split
      exact commit_of_split all (by simp) split
    · simp
    · rintro carried _ ⟨⟩
      rw [kept_committed]
      exact all
    · rintro e ⟨⟩
    · intro carried
      rw [kept_committed]
      exact .inr ⟨a, all⟩
  | unacknowledged a writes all failure e =>
    have left : ∀ again, .commit again ∉ [SessionExchange.abandon] := fun again sent => by
      cases List.mem_singleton.1 sent
    constructor
    · intro before answer after split
      exact commit_of_split all left split
    · refine iff_of_false (by rintro ⟨a, ⟨⟩⟩) fun sent => ?_
      rcases List.mem_append.1 sent with sent | sent
      · exact not_commit_of_writes writes _ sent
      · rcases List.mem_cons.1 sent with same | sent
        · cases same
        · exact left _ sent
    · rintro carried _ ⟨⟩
    · intro e _
      rw [kept_committed]
      rfl
    · intro carried
      rw [kept_committed]
      cases carried with
      | false => exact .inl rfl
      | true => exact .inr ⟨a, all⟩

end Course

end Transaction

/-! ## The calls to the store -/

namespace Coupons

/-- What is written for a coupon that gets an id: the coupon, whose id is the one number of the row that is
given back, and the grant of this coupon, if its scope has a subject. -/
def CreationWrites (c : NewCoupon) (id : CouponId) (writes : List Write) : Prop :=
  ∃ inserted grants row name, writes = inserted :: grants ∧
    inserted.command.Adds "coupons" (couponCells c) ["id"] ∧
    inserted.outcome.rows.head? = some row ∧ row.cells.head? = some (name, .int8 id.value) ∧
    AddsGrants id c (grants.map Write.command)

/-- What is written for a redemption: a use is taken from the counter of the scope, which there was,
and the redemption is added to the log, which gives its record back. -/
def RedemptionWrites (coupon : Coupon) (userId : UserId) (productId : Option ProductId)
    (time : Instant) (r : RedemptionRecord) (writes : List Write) : Prop :=
  ∃ raised added row, writes = [raised, added] ∧
    TakesUse coupon userId productId time raised.command ∧ raised.outcome.affected ≠ 0 ∧
    AddsUse coupon.id userId productId time added.command ∧
    added.outcome.rows.head? = some row ∧ RecordIn row r

/-- A single statement, and what is made of the answer. -/
def Asks {β : Type} (command : Command) (read : Except DatabaseError Outcome → β)
    (log : List SessionExchange) (b : β) : Prop :=
  ∃ answer, log = [.execute command answer] ∧ read answer = b

theorem Asks.statements {β : Type} {command : Command} {read : Except DatabaseError Outcome → β}
    {log : List SessionExchange} {b : β} (asks : Asks command read log b) : Statements log := by
  obtain ⟨answer, rfl, -⟩ := asks
  intro e sent
  exact ⟨command, answer, List.mem_singleton.1 sent⟩

theorem converses_affected (command : Command) :
    (Session.affected command).Converses (Asks command (Except.map Outcome.affected)) := by
  intro answer
  cases answer <;> exact ⟨_, rfl, rfl⟩

/-- What is read off the first row that a statement gives. -/
def readRow {ε α : Type} (wrap : DatabaseError → ε) (read : Row → Except ε α) :
    Except DatabaseError Outcome → Except ε α
  | .error e => .error (wrap e)
  | .ok outcome =>
    match outcome.rows.head? with
    | none => .error (wrap .rowNotFound)
    | some row => read row

/-- What was read comes from a statement that succeeded. -/
theorem readRow_eq_ok {ε α : Type} {wrap : DatabaseError → ε} {read : Row → Except ε α}
    {answer : Except DatabaseError Outcome} {a : α} (done : readRow wrap read answer = .ok a) :
    ∃ outcome row, answer = .ok outcome ∧ outcome.rows.head? = some row ∧ read row = .ok a := by
  cases answer with
  | error e => cases done
  | ok outcome =>
    cases first : outcome.rows.head? with
    | none =>
      rw [readRow, first] at done
      cases done
    | some row =>
      rw [readRow, first] at done
      exact ⟨outcome, row, rfl, first, done⟩

/-- A program that asks for a row and reads it. -/
theorem converses_row_bind {ε α : Type} (command : Command) (wrap : DatabaseError → ε)
    (read : Row → Except ε α) {next : Except DatabaseError Row → SessionProgram (Except ε α)}
    (failed : ∀ e, next (.error e) = pure (.error (wrap e)))
    (found : ∀ row, next (.ok row) = pure (read row)) :
    (Session.row command >>= next).Converses (Asks command (readRow wrap read)) := by
  intro answer
  cases answer with
  | error e =>
    show (next (.error e)).Converses _
    rw [failed]
    exact ⟨.error e, rfl, rfl⟩
  | ok outcome =>
    obtain ⟨rows, affected⟩ := outcome
    cases rows with
    | nil =>
      show (next (.error .rowNotFound)).Converses _
      rw [failed]
      exact ⟨.ok ⟨[], affected⟩, rfl, rfl⟩
    | cons row rows =>
      show (next (.ok row)).Converses _
      rw [found]
      exact ⟨.ok ⟨row :: rows, affected⟩, rfl, rfl⟩

theorem converses_value (α : Type) [Column α] (command : Command) :
    (Session.value α command).Converses (Asks command (readRow id Row.first)) :=
  converses_row_bind command id Row.first (fun _ => rfl) fun _ => rfl

theorem converses_insertRedemption (id : CouponId) (userId : UserId) (productId : Option ProductId)
    (time : Instant) : (insertRedemption id userId productId time).Converses
      (Asks (insertUse id userId productId time) (readRow .database readUse)) :=
  converses_row_bind _ .database readUse (fun _ => rfl) fun _ => rfl

/-- To find out why a use was refused takes one more statement. -/
theorem converses_explainRefusal (counter : CounterRow) (coupon : Coupon) (userId : UserId)
    (productId : Option ProductId) : (explainRefusal counter coupon userId productId).Converses
      fun log _ => Statements log := by
  refine (converses_value Bool counter.probe).bind fun log found asks => ?_
  match found with
  | .error e => exact asks.statements.append .nil
  | .ok true => exact asks.statements.append .nil
  | .ok false => exact asks.statements.append .nil

theorem converses_writeCoupon (c : NewCoupon) :
    (writeCoupon c).Converses (Written (CreationWrites c)) := by
  refine (converses_value Int (insertCoupon c)).bind fun log id? asks => ?_
  cases id? with
  | error e => exact asks.statements.append .nil
  | ok id =>
    dsimp only
    have inserted := asks.statements
    obtain ⟨answer, rfl, read⟩ := asks
    obtain ⟨outcome, row, rfl, came, first⟩ := readRow_eq_ok read
    obtain ⟨name, number⟩ := cells_of_first first
    have adds := insertCoupon_adds c
    have grants := insertGrant?_adds ⟨id⟩ c
    cases subject : insertGrant? id c with
    | none =>
      rw [subject] at grants
      exact ⟨[⟨insertCoupon c, outcome⟩], rfl, _, [], row, name, rfl, adds, came, number, grants⟩
    | some grant =>
      refine (converses_affected grant).bind fun log affected asks => ?_
      cases affected with
      | error e => exact inserted.append (asks.statements.append .nil)
      | ok n =>
        obtain ⟨granted, rfl, done⟩ := asks
        cases granted with
        | error e => cases done
        | ok granted =>
          rw [subject] at grants
          exact ⟨[⟨insertCoupon c, outcome⟩, ⟨grant, granted⟩], rfl, _, [⟨grant, granted⟩], row, name, rfl,
            adds, came, number, grants⟩

theorem converses_writeRedemption (coupon : Coupon) (userId : UserId) (productId : Option ProductId)
    (time : Instant) : (writeRedemption coupon userId productId time).Converses
      (Written (RedemptionWrites coupon userId productId time)) := by
  unfold writeRedemption
  cases limits : CounterRow.of? coupon.scope coupon.id userId productId with
  | none => exact .nil
  | some counter =>
    refine (converses_affected (counter.raise time)).bind fun log raised? asks => ?_
    have raised := asks.statements
    match raised? with
    | .error e => exact raised.append .nil
    | .ok 0 =>
      refine (converses_explainRefusal counter coupon userId productId).bind fun log e probed => ?_
      exact raised.append (probed.append .nil)
    | .ok (n + 1) =>
      refine (converses_insertRedemption coupon.id userId productId time).mono fun rest r asks' => ?_
      cases r with
      | error e => exact raised.append asks'.statements
      | ok r =>
        obtain ⟨answer, rfl, moved⟩ := asks
        obtain ⟨added?, rfl, read⟩ := asks'
        obtain ⟨added, row, rfl, came, read⟩ := readRow_eq_ok read
        cases answer with
        | error e => cases moved
        | ok outcome =>
          have touched : outcome.affected = n + 1 := Except.ok.inj moved
          have moved : outcome.affected ≠ 0 := by omega
          exact ⟨[⟨counter.raise time, outcome⟩, ⟨insertUse coupon.id userId productId time, added⟩], rfl,
            _, _, row, rfl, raise_takesUse limits time, moved, insertUse_adds .., came,
            recordIn_of_readUse read⟩

/-- **The discipline of transactions**, whatever a server answers. -/
theorem disciplined {σ : Type} (serve : (c : SessionCall) → σ → c.Answer × σ) (s : σ) :
    (∀ c, Disciplined (CreationWrites c) ((createCoupon c).conversation serve s)
        ((createCoupon c).run serve s).1) ∧
      ∀ coupon userId productId time, Disciplined (RedemptionWrites coupon userId productId time)
        ((redeem coupon userId productId time).conversation serve s)
        ((redeem coupon userId productId time).run serve s).1 := by
  have creation : ∀ c, (createCoupon c).Converses (Course (CreationWrites c)) := by
    intro c
    unfold createCoupon
    split
    · exact .unsent _
    · exact converses_transaction (converses_writeCoupon c) _
  have redemption : ∀ coupon userId productId time, (redeem coupon userId productId time).Converses
      (Course (RedemptionWrites coupon userId productId time)) := fun coupon userId productId time =>
    converses_transaction (converses_writeRedemption coupon userId productId time) _
  constructor
  · exact fun c => ((creation c).conversation serve s).keeps_discipline
  · exact fun coupon userId productId time =>
      ((redemption coupon userId productId time).conversation serve s).keeps_discipline

end Coupons

end Couponry.Sql
