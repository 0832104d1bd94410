import Couponry.Proofs.Program.Conversation
import Couponry.Purchase.Saga
import Mathlib.Data.List.Basic

/-!
# The protocol of a purchase

The calls that an attempt to purchase makes, and the states that it goes through, whatever the store of
products and the coupon component answer. The calls follow a plan, one after another, for as long as each
of them passes; `Part` says of a piece of an attempt which rest of the plan it carries out, from which
state on and with which transactions open. `protocol_kept` reads the order of calls off it.
-/

namespace Couponry

open Program

/-- A call of the saga with its answer. -/
abbrev SagaExchange : Type :=
  Exchange SagaCalls.Answer

namespace SagaExchange

/-- The product is looked up. -/
@[match_pattern] def looked (id : ProductId) (answer : Except ProductStoreError Product) : SagaExchange :=
  ⟨.products (.getProduct id), answer⟩

/-- The coupon is checked. -/
@[match_pattern] def checked (code : String) (request : EligibilityRequest)
    (answer : Except ClientError CouponView) : SagaExchange :=
  ⟨.coupons (.check code request), answer⟩

/-- A transaction is begun. -/
@[match_pattern] def begun (answer : Except ProductStoreError TxId) : SagaExchange :=
  ⟨.products .begin, answer⟩

/-- The purchase is written. -/
@[match_pattern] def inserted (tx : TxId) (purchase : NewPurchase)
    (answer : Except ProductStoreError PurchaseRecord) : SagaExchange :=
  ⟨.products (.insertPurchase tx purchase), answer⟩

/-- The coupon is redeemed. -/
@[match_pattern] def redeemed (caller : Identity) (code : String) (productId : Option ProductId)
    (answer : Except ClientError Unit) : SagaExchange :=
  ⟨.coupons (.redeem caller code productId), answer⟩

/-- A transaction is committed. -/
@[match_pattern] def committed (tx : TxId) (answer : Except ProductStoreError Unit) : SagaExchange :=
  ⟨.products (.commit tx), answer⟩

/-- A transaction is rolled back. -/
@[match_pattern] def rolledBack (tx : TxId) (answer : Except ProductStoreError Unit) : SagaExchange :=
  ⟨.products (.rollback tx), answer⟩

/-- The attempt changes its state. -/
@[match_pattern] def moved (source target : PurchaseState) : SagaExchange :=
  ⟨.host (.note (.event (.purchaseMoved source target))), ()⟩

/-- Something else is told to the host. -/
@[match_pattern] def noted (o : Observation) : SagaExchange :=
  ⟨.host (.note o), ()⟩

end SagaExchange

namespace Saga

/-! ## What a conversation shows -/

/-- What an attempt has the store of products or the coupon component do. -/
inductive Task where
  | look
  | check
  | begin
  | insert
  | redeem
  | commit
  | rollback
  deriving DecidableEq, Repr

/-- A task that was asked for, and whether an attempt may go on after the answer. -/
structure Deed where
  task : Task
  passed : Bool
  deriving DecidableEq, Repr

/-- The answer to a check allows the coupon to be used. -/
def usable : Except ClientError CouponView → Bool
  | .ok view => view.canUse
  | .error _ => false

/-- The task of a call to the store of products or to the coupon component. -/
def deed? : SagaExchange → Option Deed
  | .looked _ answer => some ⟨.look, answer.isOk⟩
  | .checked _ _ answer => some ⟨.check, usable answer⟩
  | .begun answer => some ⟨.begin, answer.isOk⟩
  | .inserted _ _ answer => some ⟨.insert, answer.isOk⟩
  | .redeemed _ _ _ answer => some ⟨.redeem, answer.isOk⟩
  | .committed _ answer => some ⟨.commit, answer.isOk⟩
  | .rolledBack _ answer => some ⟨.rollback, answer.isOk⟩
  | _ => none

/-- The transaction that was begun. -/
def began? : SagaExchange → Option TxId
  | .begun (.ok tx) => some tx
  | _ => none

/-- The transaction that was committed or rolled back, be it with success or not. -/
def ended? : SagaExchange → Option TxId
  | .committed tx _ | .rolledBack tx _ => some tx
  | _ => none

/-- The state that the attempt has moved to. -/
def target? : SagaExchange → Option PurchaseState
  | .moved _ target => some target
  | _ => none

/-- The calls to the store of products and to the coupon component, in their order. -/
def deeds (log : List SagaExchange) : List Deed :=
  log.filterMap deed?

/-- The transactions that were begun. -/
def began (log : List SagaExchange) : List TxId :=
  log.filterMap began?

/-- The transactions that were committed or rolled back, once for each time. -/
def ended (log : List SagaExchange) : List TxId :=
  log.filterMap ended?

/-- The state after a conversation. -/
def stateAfter (s : PurchaseState) (log : List SagaExchange) : PurchaseState :=
  log.foldl (fun s e => (target? e).getD s) s

/-- The tasks of an attempt, if all goes well. -/
def plan : Option String → List Task
  | none => [.look, .begin, .insert, .commit]
  | some _ => [.look, .check, .begin, .insert, .redeem, .commit]

/-- What is to be undone when a task fails. -/
def Task.undo : Task → List Task
  | .insert | .redeem => [.rollback]
  | _ => []

/-- The tasks are carried out in the order of the plan, up to the first that fails. After that there is
only what is to be undone. -/
inductive Carried : List Task → List Deed → Prop where
  | whole : Carried [] []
  | pass {plan : List Task} {deeds : List Deed} (task : Task) (rest : Carried plan deeds) :
      Carried (task :: plan) (⟨task, true⟩ :: deeds)
  | stop (task : Task) (plan : List Task) (undo : List Deed) (undone : undo.map Deed.task = task.undo) :
      Carried (task :: plan) (⟨task, false⟩ :: undo)

/-- The call is one that an attempt makes while it holds its transaction. -/
def NeedsTransaction : SagaCall → Prop
  | .products (.insertPurchase _ _) | .products (.commit _) | .products (.rollback _)
  | .coupons (.redeem _ _ _) => True
  | _ => False

/-- What may happen in a state: a change of it that is allowed, or a call for which the attempt holds its
transaction. -/
structure Permitted (s : PurchaseState) (e : SagaExchange) : Prop where
  move : ∀ source target, e = .moved source target → source = s ∧ s.canMoveTo target = true
  held : NeedsTransaction e.call → s.holdsTransaction = true

/-- Whatever happens is permitted in the state in which it happens. -/
def Orderly (s : PurchaseState) : List SagaExchange → Prop
  | [] => True
  | e :: log => Permitted s e ∧ Orderly ((target? e).getD s) log

/-- The call is one for this attempt: it names its product, its caller, its coupon, and transactions that
it has begun. -/
def Asked (caller : Identity) (productId : ProductId) (coupon : Option String) (txs : List TxId) :
    SagaCall → Prop
  | .products (.getProduct id) => id = productId
  | .products .begin => True
  | .products (.insertPurchase tx _) | .products (.commit tx) | .products (.rollback tx) => tx ∈ txs
  | .products (.createProduct _ _ _) | .products (.abandon _) => False
  | .coupons (.check code request) =>
    coupon = some code ∧ request = .enforceFor caller.userId (some productId)
  | .coupons (.redeem who code id) => who = caller ∧ coupon = some code ∧ id = some productId
  | .host _ => True

/-- A conversation that keeps the protocol of a purchase. -/
structure Protocol (caller : Identity) (productId : ProductId) (coupon : Option String)
    (log : List SagaExchange) (result : Except PurchaseError PurchaseRecord) : Prop where
  /-- Every change is one from the present state, and one that is allowed. -/
  moves : ∀ before source target after, log = before ++ .moved source target :: after →
    source = stateAfter .initial before ∧ source.canMoveTo target = true
  committed : stateAfter .initial log = .committed ↔ ∃ record, result = .ok record
  failed : stateAfter .initial log = .failed ↔ ∃ e, result = .error e
  valid : ∀ source target, result ≠ .error (.invalidState source target)
  /-- The order of the calls, and that they stop at the first failure. -/
  order : Carried (plan coupon) (deeds log)
  /-- The purchase succeeds just when no call has failed. -/
  passed : (∃ record, result = .ok record) ↔ ∀ d ∈ deeds log, d.passed = true
  /-- No transaction is begun when the check has failed or was negative. -/
  unusable : ⟨.check, false⟩ ∈ deeds log → ∀ passed, ⟨.begin, passed⟩ ∉ deeds log
  /-- The coupon is redeemed at most once. -/
  once : (deeds log).countP (fun d => decide (d.task = .redeem)) ≤ 1
  /-- The coupon is only redeemed after the purchase was written. -/
  written : ∀ before passed after, deeds log = before ++ ⟨.redeem, passed⟩ :: after →
    ⟨.insert, true⟩ ∈ before
  /-- With a coupon, the commit comes only after the redemption. -/
  redeemed : ∀ before passed after, deeds log = before ++ ⟨.commit, passed⟩ :: after →
    coupon.isSome = true → ⟨.redeem, true⟩ ∈ before
  /-- At most one transaction is begun, -/
  single : (began log).length ≤ 1
  /-- and what is ended, by a commit or a rollback, is just what was begun, once each. -/
  closed : ended log = began log
  asked : ∀ e ∈ log, Asked caller productId coupon (began log) e.call
  /-- Whoever writes, redeems, commits or rolls back holds the transaction. -/
  held : ∀ before e after, log = before ++ e :: after → NeedsTransaction e.call →
    (stateAfter .initial before).holdsTransaction = true

/-! ## What the order of the plan means -/

namespace Carried

variable {tasks : List Task} {done before after : List Deed} {task : Task} {passed : Bool}

theorem task_of_undone {undo : List Deed} (undone : undo.map Deed.task = task.undo) {d : Deed}
    (member : d ∈ undo) : d.task = .rollback := by
  have named : d.task ∈ task.undo := undone ▸ List.mem_map_of_mem member
  cases task <;> simp_all [Task.undo]

/-- Nothing is done but the plan, and what is to be undone. -/
theorem planned (carried : Carried tasks done) {d : Deed} (member : d ∈ done) :
    d.task ∈ tasks ∨ d.task = .rollback := by
  induction carried with
  | whole => cases member
  | pass task _ ih =>
    rcases List.mem_cons.1 member with rfl | later
    · exact .inl List.mem_cons_self
    · exact (ih later).imp_left (List.mem_cons_of_mem task)
  | stop task _ undo undone =>
    rcases List.mem_cons.1 member with rfl | later
    · exact .inl List.mem_cons_self
    · exact .inr (task_of_undone undone later)

/-- **Before a task of the plan, all that the plan has before it was done and passed.** The induction is on
that part of the plan. -/
theorem eq_passed (first rest : List Task) (carried : Carried (first ++ task :: rest) done)
    (new : task ∉ first) (once : task ∉ rest) (forward : task ≠ .rollback)
    (split : done = before ++ ⟨task, passed⟩ :: after) : before = first.map (⟨·, true⟩) := by
  induction first generalizing before done with
  | nil =>
    cases before with
    | nil => rfl
    | cons d before =>
      exfalso
      have again : (⟨task, passed⟩ : Deed) ∈ before ++ ⟨task, passed⟩ :: after :=
        List.mem_append_right _ List.mem_cons_self
      cases carried with
      | pass _ carried =>
        obtain ⟨-, rfl⟩ := List.cons.inj split
        exact (carried.planned again).elim once forward
      | stop _ _ undo undone =>
        obtain ⟨-, rfl⟩ := List.cons.inj split
        exact forward (task_of_undone undone again)
  | cons head first ih =>
    obtain ⟨other, new⟩ := not_or.1 (mt List.mem_cons.2 new)
    cases carried with
    | pass _ carried =>
      cases before with
      | nil => exact absurd (congrArg Deed.task (List.cons.inj split).1).symm other
      | cons d before =>
        obtain ⟨rfl, tail⟩ := List.cons.inj split
        rw [List.map_cons, ih carried new tail]
    | stop _ _ undo undone =>
      cases before with
      | nil => exact absurd (congrArg Deed.task (List.cons.inj split).1).symm other
      | cons d before =>
        obtain ⟨-, rfl⟩ := List.cons.inj split
        have again : (⟨task, passed⟩ : Deed) ∈ before ++ ⟨task, passed⟩ :: after :=
          List.mem_append_right _ List.mem_cons_self
        exact absurd (task_of_undone undone again) forward

/-- Nothing is done more often than it is planned. -/
theorem count_le (carried : Carried tasks done) (forward : task ≠ .rollback) :
    done.countP (fun d => decide (d.task = task)) ≤ tasks.count task := by
  induction carried with
  | whole => exact Nat.le_refl 0
  | pass head _ ih =>
    rw [List.countP_cons, List.count_cons]
    by_cases same : head = task
    · simpa [same] using ih
    · simpa [same] using ih
  | stop head plan undo undone =>
    have none : undo.countP (fun d => decide (d.task = task)) = 0 := by
      refine List.countP_eq_zero.2 fun d member same => forward ?_
      rw [← of_decide_eq_true same, task_of_undone undone member]
    rw [List.countP_cons, List.count_cons, none]
    by_cases same : head = task <;> simp [same]

end Carried

/-! ## Conversations piece by piece -/

theorem stateAfter_append (s : PurchaseState) (log rest : List SagaExchange) :
    stateAfter s (log ++ rest) = stateAfter (stateAfter s log) rest :=
  List.foldl_append

theorem Orderly.append {s : PurchaseState} {log rest : List SagaExchange} (first : Orderly s log)
    (second : Orderly (stateAfter s log) rest) : Orderly s (log ++ rest) := by
  induction log generalizing s with
  | nil => exact second
  | cons e log ih => exact ⟨first.1, ih first.2 second⟩

/-- What happens after a piece of a conversation is permitted in the state after that piece. -/
theorem Orderly.permitted {s : PurchaseState} {before after : List SagaExchange} {e : SagaExchange}
    (orderly : Orderly s (before ++ e :: after)) : Permitted (stateAfter s before) e := by
  induction before generalizing s with
  | nil => exact orderly.1
  | cons d before ih => exact ih orderly.2

theorem Permitted.of_move {s target : PurchaseState} (move : s.canMoveTo target = true) :
    Permitted s (.moved s target) where
  move := by
    rintro _ _ ⟨⟩
    exact ⟨rfl, move⟩
  held := False.elim

/-- A call that is no change of state is permitted if the transaction is held that it needs. -/
theorem Permitted.of_held {s : PurchaseState} {e : SagaExchange} (stays : target? e = none)
    (held : NeedsTransaction e.call → s.holdsTransaction = true) : Permitted s e where
  move := by
    rintro _ _ rfl
    cases stays
  held := held

/-! ## Pieces of an attempt -/

section Attempt

variable {caller : Identity} {productId : ProductId} {coupon : Option String}

/-- How an attempt ends: committed, or in a state in which it can still be marked as failed. -/
def Settled : Outcome → Prop
  | (.ok _, s) => s = .committed
  | (.error e, s) => s.canMoveTo .failed = true ∧ ∀ source target, e ≠ .invalidState source target

variable (caller productId coupon)

/-- The rest of an attempt, from a state on and with these transactions open, which carries out the rest of
the plan. -/
structure Part (tasks : List Task) (s : PurchaseState) (txs : List TxId) (log : List SagaExchange)
    (o : Outcome) : Prop where
  carried : Carried tasks (deeds log)
  passed : (∃ record, o.1 = .ok record) ↔ ∀ d ∈ deeds log, d.passed = true
  orderly : Orderly s log
  reached : stateAfter s log = o.2
  settled : Settled o
  single : (txs ++ began log).length ≤ 1
  closed : ended log = txs ++ began log
  asked : ∀ e ∈ log, Asked caller productId coupon (txs ++ began log) e.call

variable {caller productId coupon}

namespace Part

variable {tasks : List Task} {s target : PurchaseState} {txs : List TxId} {log : List SagaExchange}
  {o : Outcome} {e : SagaExchange} {task : Task}

/-- A change of state in front. -/
theorem move (part : Part caller productId coupon tasks target txs log o)
    (move : s.canMoveTo target = true) :
    Part caller productId coupon tasks s txs (.moved s target :: log) o where
  carried := part.carried
  passed := part.passed
  orderly := ⟨.of_move move, part.orderly⟩
  reached := part.reached
  settled := part.settled
  single := part.single
  closed := part.closed
  asked := List.forall_mem_cons.2 ⟨trivial, part.asked⟩

/-- The time is asked for in front. -/
theorem timed (part : Part caller productId coupon tasks s txs log o) (time : Instant) :
    Part caller productId coupon tasks s txs (⟨.host .now, time⟩ :: log) o where
  carried := part.carried
  passed := part.passed
  orderly := ⟨.of_held rfl False.elim, part.orderly⟩
  reached := part.reached
  settled := part.settled
  single := part.single
  closed := part.closed
  asked := List.forall_mem_cons.2 ⟨trivial, part.asked⟩

/-- A task that passes in front. -/
theorem pass (part : Part caller productId coupon tasks s (txs ++ (began? e).toList) log o)
    (deed : deed? e = some ⟨task, true⟩) (stays : target? e = none) (lasts : ended? e = none)
    (held : NeedsTransaction e.call → s.holdsTransaction = true)
    (asked : Asked caller productId coupon (txs ++ began (e :: log)) e.call) :
    Part caller productId coupon (task :: tasks) s txs (e :: log) o := by
  have done : deeds (e :: log) = ⟨task, true⟩ :: deeds log := List.filterMap_cons_some deed
  have begins : txs ++ began (e :: log) = txs ++ (began? e).toList ++ began log := by
    rw [List.append_assoc]
    cases new : began? e with
    | none => rw [began, List.filterMap_cons_none new]; rfl
    | some tx => rw [began, List.filterMap_cons_some new]; rfl
  refine ⟨?_, ?_, ⟨.of_held stays held, ?_⟩, ?_, part.settled, ?_, ?_, ?_⟩
  · rw [done]
    exact .pass task part.carried
  · rw [done, List.forall_mem_cons, part.passed]
    exact ⟨fun all => ⟨rfl, all⟩, And.right⟩
  · rw [stays]
    exact part.orderly
  · rw [← part.reached, stateAfter, List.foldl_cons, stays]
    rfl
  · rw [begins]
    exact part.single
  · rw [begins, ← part.closed]
    exact List.filterMap_cons_none lasts
  · refine List.forall_mem_cons.2 ⟨asked, ?_⟩
    rw [begins]
    exact part.asked

/-- A task that fails, with what is done about it. -/
theorem fail {e : PurchaseError} (undo : List Deed) (done : deeds log = ⟨task, false⟩ :: undo)
    (undone : undo.map Deed.task = task.undo) (orderly : Orderly s log) (stays : stateAfter s log = s)
    (live : s.canMoveTo .failed = true) (valid : ∀ source target, e ≠ .invalidState source target)
    (single : txs.length ≤ 1) (begins : began log = []) (ends : ended log = txs)
    (asked : ∀ e ∈ log, Asked caller productId coupon txs e.call) :
    Part caller productId coupon (task :: tasks) s txs log (.error e, s) where
  carried := done ▸ .stop task tasks undo undone
  passed := by
    rw [done]
    refine iff_of_false nofun fun all => ?_
    cases all ⟨task, false⟩ List.mem_cons_self
  orderly := orderly
  reached := stays
  settled := ⟨live, valid⟩
  single := by rwa [begins, List.append_nil]
  closed := by rw [begins, List.append_nil, ends]
  asked := by rwa [begins, List.append_nil]

/-- A rollback, which is told to the host if it fails. -/
inductive RolledBack (tx : TxId) : List SagaExchange → Prop where
  | done : RolledBack tx [.rolledBack tx (.ok ())]
  | failed (e : ProductStoreError) :
      RolledBack tx [.rolledBack tx (.error e), .noted (.event (.rollbackFailed e))]

/-- A task that fails after the transaction was opened, which is then rolled back. -/
theorem undone {e : SagaExchange} {tx : TxId} (why : PurchaseError) (rolled : RolledBack tx log)
    (deed : deed? e = some ⟨task, false⟩) (undo : task.undo = [.rollback]) (stays : target? e = none)
    (begins : began? e = none) (lasts : ended? e = none) (held : s.holdsTransaction = true)
    (live : s.canMoveTo .failed = true) (valid : ∀ source target, why ≠ .invalidState source target)
    (asked : Asked caller productId coupon [tx] e.call) :
    Part caller productId coupon (task :: tasks) s [tx] (e :: log) (.error why, s) := by
  have first : Permitted s e := .of_held stays fun _ => held
  have state : (target? e).getD s = s := by rw [stays]; rfl
  have ends : ∀ rest, ended (e :: rest) = ended rest := fun _ => List.filterMap_cons_none lasts
  have new : ∀ rest, began (e :: rest) = began rest := fun _ => List.filterMap_cons_none begins
  have after : ∀ rest, stateAfter s (e :: rest) = stateAfter s rest := fun rest => by
    rw [stateAfter, List.foldl_cons, state]
    rfl
  have own : Asked caller productId coupon [tx] (SagaCall.products (.rollback tx)) := List.mem_cons_self
  cases rolled with
  | done =>
    refine fail _ (List.filterMap_cons_some deed) undo.symm ⟨first, ?_⟩ (after _) live valid
      (Nat.le_refl 1) (new _) (ends _) ?_
    · rw [state]
      exact ⟨.of_held rfl fun _ => held, trivial⟩
    · exact List.forall_mem_cons.2 ⟨asked, List.forall_mem_singleton.2 own⟩
  | failed failure =>
    refine fail _ (List.filterMap_cons_some deed) undo.symm ⟨first, ?_⟩ (after _) live valid
      (Nat.le_refl 1) (new _) (ends _) ?_
    · rw [state]
      exact ⟨.of_held rfl fun _ => held, .of_held rfl False.elim, trivial⟩
    · refine List.forall_mem_cons.2 ⟨asked, List.forall_mem_cons.2 ⟨own, ?_⟩⟩
      exact List.forall_mem_singleton.2 trivial

end Part

/-- What is left of the plan when the purchase is written. -/
def closing : Option String → List Task
  | none => [.commit]
  | some _ => [.redeem, .commit]

theorem converses_advance {s target : PurchaseState} {rest : SagaProgram Outcome}
    {ends : List SagaExchange → Outcome → Prop} (move : s.canMoveTo target = true)
    (talk : rest.Converses fun log o => ends (.moved s target :: log) o) :
    (advance s target rest).Converses ends := by
  rw [advance, if_pos move]
  exact fun _ => talk

theorem converses_rollback {tx : TxId} {o : Outcome} {ends : List SagaExchange → Outcome → Prop}
    (undone : ∀ log, Part.RolledBack tx log → ends log o) :
    (rollback tx >>= fun _ => return o).Converses ends := by
  intro answer
  cases answer with
  | ok _ => exact undone _ .done
  | error e => exact fun _ => undone _ (.failed e)

/-- The commit. The answer decides how the attempt ends; in either case the transaction is over. -/
theorem converses_finish {s : PurchaseState} (move : s.canMoveTo .committed = true)
    (live : s.canMoveTo .failed = true) (held : s.holdsTransaction = true) (given : Option String)
    (tx : TxId) (record : PurchaseRecord) : (finish s caller productId given tx record).Converses
      (Part caller productId coupon [.commit] s [tx]) := by
  have own : Asked caller productId coupon [tx] (SagaCall.products (.commit tx)) := List.mem_cons_self
  intro answer
  have commit : Permitted s (.committed tx answer) := .of_held rfl fun _ => held
  cases answer with
  | ok _ =>
    refine converses_advance move ?_
    exact {
      carried := .pass .commit .whole
      passed := iff_of_true ⟨record, rfl⟩ (List.forall_mem_singleton.2 rfl)
      orderly := ⟨commit, .of_move move, trivial⟩
      reached := rfl
      settled := rfl
      single := Nat.le_refl 1
      closed := rfl
      asked := List.forall_mem_cons.2 ⟨own, List.forall_mem_singleton.2 trivial⟩ }
  | error e =>
    cases given with
    | none =>
      exact .fail [] rfl rfl ⟨commit, trivial⟩ rfl live nofun (Nat.le_refl 1) rfl rfl
        (List.forall_mem_singleton.2 own)
    | some code =>
      intro _ _
      refine .fail [] rfl rfl ⟨commit, .of_held rfl False.elim, .of_held rfl False.elim, trivial⟩ rfl
        live nofun (Nat.le_refl 1) rfl rfl ?_
      refine List.forall_mem_cons.2 ⟨own, List.forall_mem_cons.2 ⟨trivial, ?_⟩⟩
      exact List.forall_mem_singleton.2 trivial

/-- The redemption, if there is a coupon. Without its success there is no commit. -/
theorem converses_redeem (tx : TxId) (record : PurchaseRecord) :
    (redeem caller productId coupon tx record).Converses
      (Part caller productId coupon (closing coupon) .reserving [tx]) := by
  cases coupon with
  | none => exact converses_finish rfl rfl rfl none tx record
  | some code =>
    have own : ∀ txs, Asked caller productId (some code) txs
        (SagaCall.coupons (.redeem caller code (some productId))) := fun _ => ⟨rfl, rfl, rfl⟩
    refine converses_advance rfl fun answer => ?_
    cases answer with
    | ok _ =>
      have finish : (finish .redeeming caller productId (some code) tx record).Converses
          (Part caller productId (some code) [.commit] .redeeming [tx]) :=
        converses_finish rfl rfl rfl (some code) tx record
      refine finish.mono fun log o part => ?_
      exact (part.pass (e := .redeemed caller code (some productId) (.ok ())) rfl rfl rfl (fun _ => rfl)
        (own _)).move rfl
    | error e =>
      refine converses_rollback fun log rolled => ?_
      exact (Part.undone (e := .redeemed caller code (some productId) (.error e)) (.coupon e) rolled
        rfl rfl rfl rfl rfl rfl rfl nofun (own _)).move rfl

/-- The transaction. Once it is opened, it stays open until the commit or the rollback. -/
theorem converses_reserve (product : Product) (discounted : Money) :
    (reserve caller product productId discounted coupon).Converses
      (Part caller productId coupon (.begin :: .insert :: closing coupon) .eligibilityChecked []) := by
  intro answer
  cases answer with
  | error e =>
    exact .fail [] rfl rfl ⟨.of_held rfl False.elim, trivial⟩ rfl rfl nofun (Nat.zero_le 1) rfl rfl
      (List.forall_mem_singleton.2 trivial)
  | ok tx =>
    -- what comes of the piece after the insertion, which needs the transaction that was begun
    have opened : ∀ {tasks log o}, Part caller productId coupon tasks .reserving [tx] log o → ∀ now,
        Part caller productId coupon (.begin :: tasks) .eligibilityChecked []
          (.begun (.ok tx) :: .moved .eligibilityChecked .reserving :: ⟨.host .now, now⟩ :: log) o :=
      fun part now => ((part.timed now).move rfl).pass (e := .begun (.ok tx)) rfl rfl rfl False.elim trivial
    refine converses_advance rfl fun now answer => ?_
    cases answer with
    | ok record =>
      refine (converses_redeem tx record).mono fun log o part => ?_
      exact opened (part.pass (e := .inserted tx _ (.ok record)) rfl rfl rfl (fun _ => rfl)
        List.mem_cons_self) now
    | error e =>
      refine converses_rollback fun log rolled => ?_
      exact opened (Part.undone (e := .inserted tx _ (.error e)) (.store e) rolled
        rfl rfl rfl rfl rfl rfl rfl nofun List.mem_cons_self) now

/-- The check, if there is a coupon. A negative answer stops the attempt like a failure. -/
theorem converses_validate (product : Product) :
    (validate caller product productId coupon).Converses
      (Part caller productId coupon (plan coupon).tail .validating []) := by
  cases coupon with
  | none => exact converses_advance rfl ((converses_reserve product _).mono fun log o part => part.move rfl)
  | some code =>
    have own : ∀ txs, Asked caller productId (some code) txs
        (SagaCall.coupons (.check code (.enforceFor caller.userId (some productId)))) :=
      fun _ => ⟨rfl, rfl⟩
    intro answer
    cases answer with
    | error e =>
      exact .fail [] rfl rfl ⟨.of_held rfl False.elim, trivial⟩ rfl rfl nofun (Nat.zero_le 1) rfl
        rfl (List.forall_mem_singleton.2 (own _))
    | ok view =>
      cases use : view.canUse with
      | true =>
        have deed : deed? (.checked code (.enforceFor caller.userId (some productId)) (.ok view)) =
            some ⟨.check, true⟩ := congrArg (fun passed => some (Deed.mk .check passed)) use
        show Converses _ (if view.canUse then _ else _)
        rw [if_pos use]
        refine converses_advance rfl ((converses_reserve product _).mono fun log o part => ?_)
        exact (part.move rfl).pass deed rfl rfl False.elim (own _)
      | false =>
        have done : deeds [.checked code (.enforceFor caller.userId (some productId)) (.ok view)] =
            [⟨.check, false⟩] := congrArg (fun passed => [Deed.mk .check passed]) use
        show Converses _ (if view.canUse then _ else _)
        rw [if_neg (by rw [use]; exact Bool.false_ne_true)]
        exact .fail [] done rfl ⟨.of_held rfl False.elim, trivial⟩ rfl rfl nofun (Nat.zero_le 1)
          rfl rfl (List.forall_mem_singleton.2 (own _))

theorem plan_eq (coupon : Option String) : plan coupon = .look :: (plan coupon).tail := by
  cases coupon <;> rfl

theorem converses_attempt : (attempt caller productId coupon).Converses
    (Part caller productId coupon (plan coupon) .validating []) := by
  rw [plan_eq]
  intro answer
  cases answer with
  | error e =>
    refine .fail [] rfl rfl ⟨.of_held rfl False.elim, trivial⟩ rfl rfl ?_ (Nat.zero_le 1) rfl rfl
      (List.forall_mem_singleton.2 rfl)
    cases e <;> nofun
  | ok product =>
    refine (converses_validate product).mono fun log o part => ?_
    exact part.pass (e := .looked productId (.ok product)) rfl rfl rfl False.elim rfl

end Attempt

/-! ## The whole purchase -/

section Plan

variable {coupon : Option String} {done before after : List Deed} (carried : Carried (plan coupon) done)
include carried

/-- After a check that failed or was negative no transaction is begun. -/
theorem not_begun_of_unusable (negative : ⟨.check, false⟩ ∈ done) (passed : Bool) :
    ⟨.begin, passed⟩ ∉ done := by
  intro begun
  cases coupon with
  | none => exact absurd (carried.planned negative) (by decide)
  | some code =>
    obtain ⟨before, after, split⟩ := List.append_of_mem negative
    obtain ⟨before', after', split'⟩ := List.append_of_mem begun
    have looked : before = [⟨.look, true⟩] :=
      carried.eq_passed [.look] [.begin, .insert, .redeem, .commit] (by decide) (by decide) nofun split
    have checked : before' = [⟨.look, true⟩, ⟨.check, true⟩] :=
      carried.eq_passed [.look, .check] [.insert, .redeem, .commit] (by decide) (by decide) nofun split'
    rw [split, looked, checked] at split'
    cases split'

theorem written_of_redeemed {passed : Bool} (split : done = before ++ ⟨.redeem, passed⟩ :: after) :
    ⟨.insert, true⟩ ∈ before := by
  cases coupon with
  | none =>
    have member : ⟨.redeem, passed⟩ ∈ done := split ▸ List.mem_append_right _ List.mem_cons_self
    have unplanned : Task.redeem ∉ plan none := by decide
    exact (carried.planned member).elim (fun planned => absurd planned unplanned) nofun
  | some code =>
    rw [carried.eq_passed [.look, .check, .begin, .insert] [.commit] (by decide) (by decide) nofun split]
    decide

theorem redeemed_of_committed {passed : Bool} (split : done = before ++ ⟨.commit, passed⟩ :: after)
    (given : coupon.isSome = true) : ⟨.redeem, true⟩ ∈ before := by
  obtain ⟨code, rfl⟩ := Option.isSome_iff_exists.1 given
  rw [carried.eq_passed [.look, .check, .begin, .insert, .redeem] [] (by decide) (by decide) nofun split]
  decide

end Plan

/-- A call to the host is none to the store of products or to the coupon component. -/
theorem silent_of_host {e : SagaExchange} (host : ∃ c, e.call = .host c) :
    deed? e = none ∧ began? e = none ∧ ended? e = none := by
  obtain ⟨call, answer⟩ := e
  obtain ⟨c, rfl⟩ := host
  exact ⟨rfl, rfl, rfl⟩

/-- What is told to the host around a conversation adds nothing to what the conversation shows. -/
theorem filterMap_of_told {β : Type} {shows : SagaExchange → Option β} {log rest : List SagaExchange}
    {o : Observation} (first : shows (.noted o) = none) (silent : ∀ e ∈ rest, shows e = none) :
    (SagaExchange.noted o :: (log ++ rest)).filterMap shows = log.filterMap shows := by
  rw [List.filterMap_cons_none first, List.filterMap_append, List.filterMap_eq_nil_iff.2 silent,
    List.append_nil]

/-- What an attempt does and what is told of it to the host make up a conversation that keeps the
protocol. -/
theorem Part.protocol {caller : Identity} {productId : ProductId} {coupon : Option String}
    {log rest : List SagaExchange} {result : Except PurchaseError PurchaseRecord} {s : PurchaseState}
    (final : PurchaseState)
    (part : Part caller productId coupon (plan coupon) .validating [] log (result, s))
    (told : ∀ e ∈ rest, ∃ c, e.call = .host c) (orderly : Orderly s rest)
    (ends : stateAfter s rest = final)
    (committed : final = .committed ↔ ∃ record, result = .ok record)
    (failed : final = .failed ↔ ∃ e, result = .error e) :
    Protocol caller productId coupon (.noted (.count .purchaseAttempts) :: (log ++ rest)) result := by
  have deeds_eq : deeds (.noted (.count .purchaseAttempts) :: (log ++ rest)) = deeds log :=
    filterMap_of_told rfl fun e member => (silent_of_host (told e member)).1
  have began_eq : began (.noted (.count .purchaseAttempts) :: (log ++ rest)) = began log :=
    filterMap_of_told rfl fun e member => (silent_of_host (told e member)).2.1
  have ended_eq : ended (.noted (.count .purchaseAttempts) :: (log ++ rest)) = ended log :=
    filterMap_of_told rfl fun e member => (silent_of_host (told e member)).2.2
  have whole : Orderly .initial (.noted (.count .purchaseAttempts) :: (log ++ rest)) :=
    ⟨.of_held rfl False.elim, part.orderly.append (by rw [part.reached]; exact orderly)⟩
  have last : stateAfter .initial (.noted (.count .purchaseAttempts) :: (log ++ rest)) = final := by
    show stateAfter .validating (log ++ rest) = _
    rw [stateAfter_append, part.reached, ends]
  constructor
  · intro before source target after split
    have ordered : Orderly .initial (before ++ .moved source target :: after) := split ▸ whole
    obtain ⟨same, allowed⟩ := ordered.permitted.move source target rfl
    exact ⟨same, same ▸ allowed⟩
  · rw [last, committed]
  · rw [last, failed]
  · rintro source target rfl
    exact part.settled.2 source target rfl
  · exact deeds_eq ▸ part.carried
  · exact deeds_eq ▸ part.passed
  · rw [deeds_eq]
    exact not_begun_of_unusable part.carried
  · rw [deeds_eq]
    have bound : (deeds log).countP (fun d => decide (d.task = .redeem)) ≤ (plan coupon).count .redeem :=
      part.carried.count_le nofun
    refine Nat.le_trans bound ?_
    cases coupon with
    | none => exact Nat.zero_le 1
    | some _ => exact Nat.le_refl 1
  · rw [deeds_eq]
    exact fun _ _ _ => written_of_redeemed part.carried
  · rw [deeds_eq]
    exact fun _ _ _ => redeemed_of_committed part.carried
  · exact began_eq ▸ part.single
  · rw [began_eq, ended_eq]
    exact part.closed
  · rw [began_eq]
    refine List.forall_mem_cons.2 ⟨trivial, List.forall_mem_append.2 ⟨part.asked, fun e member => ?_⟩⟩
    obtain ⟨c, host⟩ := told e member
    rw [host]
    trivial
  · intro before e after split
    exact (split ▸ whole).permitted.held

/-- **A purchase keeps its protocol**, whatever the store of products and the coupon component answer. -/
theorem protocol_kept {σ : Type} (serve : (c : SagaCall) → σ → SagaCalls.Answer c × σ) (s : σ)
    (caller : Identity) (productId : ProductId) (coupon : Option String) :
    Protocol caller productId coupon ((purchase caller productId coupon).conversation serve s)
      ((purchase caller productId coupon).run serve s).1 := by
  have talk : (purchase caller productId coupon).Converses (Protocol caller productId coupon) := by
    intro _
    have pieces : (attempt caller productId coupon).Converses
        (Part caller productId coupon (plan coupon) .validating []) := converses_attempt
    refine pieces.bind fun log o part => ?_
    obtain ⟨result, s⟩ := o
    cases result with
    | ok record =>
      have done : s = .committed := part.settled
      intro _ _ _
      refine part.protocol s ?_ ?_ rfl
        (iff_of_true done ⟨record, rfl⟩) (iff_of_false (by rw [done]; nofun) nofun)
      · refine List.forall_mem_cons.2 ⟨⟨_, rfl⟩, List.forall_mem_cons.2 ⟨⟨_, rfl⟩, ?_⟩⟩
        exact List.forall_mem_singleton.2 ⟨_, rfl⟩
      · exact ⟨.of_held rfl False.elim, .of_held rfl False.elim, .of_held rfl False.elim, trivial⟩
    | error e =>
      show Converses _ (count .purchaseDurations >>= fun _ => markFailed s >>= fun _ => _)
      rw [markFailed, if_pos part.settled.1]
      intro _ _ _ _
      refine part.protocol .failed ?_ ?_ rfl (iff_of_false nofun nofun)
        (iff_of_true rfl ⟨e, rfl⟩)
      · refine List.forall_mem_cons.2 ⟨⟨_, rfl⟩, List.forall_mem_cons.2 ⟨⟨_, rfl⟩, ?_⟩⟩
        exact List.forall_mem_cons.2 ⟨⟨_, rfl⟩, List.forall_mem_singleton.2 ⟨_, rfl⟩⟩
      · exact ⟨.of_held rfl False.elim, .of_move part.settled.1, .of_held rfl False.elim,
          .of_held rfl False.elim, trivial⟩
  exact talk.conversation serve s

end Saga

end Couponry
