import Couponry.Proofs.Coupon.Run
import Couponry.Proofs.Purchase.Following
import Couponry.Purchase.Catalog

/-!
# Markets

Many attempts to purchase at once, over one ledger and one catalog. A move lets one attempt make its
next call to a store, or serves a call of somebody else; the moves come in any order, so a sequence of
moves is a schedule. Between two calls to the stores an attempt only talks to its host, which touches
nothing that others see, so a turn of an attempt goes on until its next call to a store.
-/

namespace Couponry

/-- What the host answers, call by call. -/
abbrev HostScript : Type :=
  Nat → HostAnswers

/-- The script without its first answers. -/
def HostScript.tail (script : HostScript) : HostScript :=
  fun n => script (n + 1)

/-- The two stores in memory. -/
structure Stores where
  ledger : Ledger
  catalog : Catalog

/-- Answers a call of the system. -/
def Stores.serve (host : HostAnswers) : (c : SystemCall) → Stores → SystemCalls.Answer c × Stores
  | .store c, s => ((Ledger.answer c s.ledger).1, { s with ledger := (Ledger.answer c s.ledger).2 })
  | .products c, s =>
    ((Catalog.answer c s.catalog).1, { s with catalog := (Catalog.answer c s.catalog).2 })
  | .host c, s => (host c, s)

/-- Answers a call of the system, with the next answer of the host if it is a call to the host. -/
def Stores.attend (c : SystemCall) (s : Stores × HostScript) :
    SystemCalls.Answer c × (Stores × HostScript) :=
  ((s.1.serve (s.2 0) c).1, (s.1.serve (s.2 0) c).2, s.2.tail)

/-- Goes on to the next call to a store, or to the end. -/
def settle {α : Type} (script : HostScript) : SystemProgram α → SystemProgram α
  | .done a => .done a
  | .ask (.host c) next => settle script.tail (next (script 0 c))
  | .ask (.store c) next => .ask (.store c) next
  | .ask (.products c) next => .ask (.products c) next

/-- What one call changed. -/
structure Change where
  before : Stores
  after : Stores

namespace Change

/-- The redemptions that were added. -/
def redemptions (c : Change) : List RedemptionRecord :=
  c.after.ledger.redemptions.drop c.before.ledger.redemptions.length

/-- The purchases that were committed. -/
def purchases (c : Change) : List PurchaseRecord :=
  c.after.catalog.purchases.drop c.before.catalog.purchases.length

end Change

/-- An attempt under way: what is left of it, and what its calls to the stores have changed. -/
structure Buyer where
  attempt : Attempt
  rest : SystemProgram (Except PurchaseError PurchaseRecord)
  changes : List Change

namespace Buyer

/-- An attempt before its first call to a store. -/
def enter (a : Attempt) (script : HostScript) : Buyer :=
  ⟨a, settle script a.program, []⟩

/-- The attempt after a call that changed the stores like this. -/
def after (b : Buyer) (rest : SystemProgram (Except PurchaseError PurchaseRecord)) (change : Change) :
    Buyer :=
  ⟨b.attempt, rest, b.changes ++ [change]⟩

/-- Makes the next call, and goes on to the one after it. -/
def turn (b : Buyer) (script : HostScript) (s : Stores) : Buyer × Stores :=
  match b.rest with
  | .done _ => (b, s)
  | .ask c next =>
    let (answer, s') := s.serve (script 0) c
    (b.after (settle script.tail (next answer)) ⟨s, s'⟩, s')

theorem attempt_turn (b : Buyer) (script : HostScript) (s : Stores) :
    (b.turn script s).1.attempt = b.attempt := by
  unfold turn
  split <;> rfl

/-- What the attempt has returned. -/
def result? (b : Buyer) : Option (Except PurchaseError PurchaseRecord) :=
  match b.rest with
  | .done result => some result
  | .ask _ _ => none

/-- The redemptions that the attempt has made. -/
def redemptions (b : Buyer) : List RedemptionRecord :=
  b.changes.flatMap Change.redemptions

/-- The purchases that the attempt has committed. -/
def purchases (b : Buyer) : List PurchaseRecord :=
  b.changes.flatMap Change.purchases

end Buyer

/-- The stores, the attempts, and other requests to the coupon component under way. -/
structure Market where
  stores : Stores
  buyers : List Buyer
  requests : List (CouponProgram Unit)

/-- Makes the next call of a request. -/
def advance {α : Type} (host : HostAnswers) : CouponProgram α → Ledger → CouponProgram α × Ledger
  | .done a, l => (.done a, l)
  | .ask c next, l => (next (Ledger.serve host c l).1, (Ledger.serve host c l).2)

/-- What can happen in a market. -/
inductive Move where
  /-- An attempt is begun. -/
  | enter (a : Attempt) (script : HostScript)
  /-- An attempt makes its next call to a store. -/
  | turn (i : Nat) (script : HostScript)
  /-- A request to the coupon component is begun, whatever it does there. -/
  | ask (request : CouponProgram Unit)
  /-- A request makes its next call. -/
  | serve (i : Nat) (host : HostAnswers)
  | addProduct (name : String) (price : Money) (now : Instant)
  | failOnRedeem (fail : Bool)
  | failOnCommit (fail : Bool)

/-- The move is one of an attempt. -/
def Move.ofAttempt : Move → Bool
  | .enter _ _ | .turn _ _ => true
  | _ => false

namespace Market

/-- A market where nothing has happened. -/
def opened (s : Stores) : Market :=
  ⟨s, [], []⟩

/-- The market after a move. -/
def exec (m : Market) : Move → Market
  | .enter a script => { m with buyers := m.buyers ++ [.enter a script] }
  | .turn i script =>
    match m.buyers[i]? with
    | none => m
    | some b =>
      let (b', s) := b.turn script m.stores
      { m with stores := s, buyers := m.buyers.set i b' }
  | .ask request => { m with requests := m.requests ++ [request] }
  | .serve i host =>
    match m.requests[i]? with
    | none => m
    | some p =>
      let (p', l) := advance host p m.stores.ledger
      { m with stores := { m.stores with ledger := l }, requests := m.requests.set i p' }
  | .addProduct name price now =>
    { m with stores := { m.stores with catalog := (m.stores.catalog.addProduct name price now).2 } }
  | .failOnRedeem fail =>
    { m with stores := { m.stores with ledger := { m.stores.ledger with failOnRedeem := fail } } }
  | .failOnCommit fail =>
    { m with stores := { m.stores with catalog := { m.stores.catalog with failOnCommit := fail } } }

/-- The market after a schedule. -/
def run (m : Market) (moves : List Move) : Market :=
  moves.foldl exec m

end Market

/-! ## Settling -/

/-- A program that does not wait for its host. -/
def Settled {α : Type} : SystemProgram α → Prop
  | .ask (.host _) _ => False
  | _ => True

theorem settled_settle {α : Type} (script : HostScript) (p : SystemProgram α) :
    Settled (settle script p) := by
  induction p generalizing script with
  | done a => trivial
  | ask c next ih =>
    cases c with
    | store c => trivial
    | products c => trivial
    | host c => exact ih _ _

/-- Settling keeps to the course, and what the answers of the host cannot break stays as it is. -/
theorem follows_settle {a : Attempt} {α : Type} {ends : Course → α → Prop} {Inv : Course → Prop}
    {script : HostScript} {p : SystemProgram α} {x : Course}
    (closed : ∀ n c x y, Inv x → Course.Step a x (.host c) (script n c) y → Inv y) (holds : Inv x)
    (follows : p.Follows (Course.Step a) ends x) :
    ∃ y, Inv y ∧ (settle script p).Follows (Course.Step a) ends y := by
  induction p generalizing script x with
  | done b => exact ⟨x, holds, follows⟩
  | ask c next ih =>
    cases c with
    | store c => exact ⟨x, holds, follows⟩
    | products c => exact ⟨x, holds, follows⟩
    | host c =>
      obtain ⟨y, go, rest⟩ := follows (script 0 c)
      exact ih _ (fun n => closed (n + 1)) (closed 0 c x y holds go) rest

end Couponry
