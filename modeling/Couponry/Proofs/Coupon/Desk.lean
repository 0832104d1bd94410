import Couponry.Proofs.Coupon.Run
import Couponry.Proofs.Coupon.Uses
import Couponry.Proofs.Ledger.Representation

/-!
# Deletions in between

Any number of calls to the coupon service are under way over one ledger, and their calls to the store are
interleaved in any order. A use of a coupon that is asked for its own subject can only be refused because
there is no use left, or because the coupon was deleted between the two calls to the store. `Decided` says
how such a call ends: a coupon for everybody is then not found, but one with a subject is taken for an
inconsistent store, since it is its grant that is missed.

The invariant of a call under way is that the ledgers it has found go on from each other, up to the
present one; so it is kept by the moves of all others.
-/

namespace Couponry

open Ledger (Continues CounterKey)

/-! ## Subjects -/

/-- The use is one by the user, or for the product, for which a coupon of this scope was created. -/
def CouponScope.Admits (use : Use) : CouponScope → Prop
  | .limited => True
  | .perUser userId => use.request.userId = some userId
  | .perProduct productId => use.request.productId = some productId

namespace Ledger

/-- The coupon counts its uses by this scope, and by no other. -/
structure Scoped (l : Ledger) (c : Coupon) (scope : CouponScope) : Prop where
  kind : scope.kind = c.scope
  counter : ∀ other : CouponScope, (l.counter? (other.counterKey c.id)).isSome = true ↔ other = scope

/-- Calls can rely on the ledger: it is as calls leave it, and redemptions are not made to fail. -/
structure Serving (l : Ledger) : Prop where
  formed : l.WellFormed
  on : l.failOnRedeem = false

theorem Serving.answer {l : Ledger} (h : l.Serving) (c : StoreCall) : (answer c l).2.Serving where
  formed := h.formed.effect (effect_answer l c)
  on := by
    have e := effect_answer l c
    generalize (Ledger.answer c l).2 = l' at e
    generalize Reply.mk c (Ledger.answer c l).1 = reply at e
    cases e with
    | nothing => exact h.on
    | created => simp [h.on]
    | deleted | inserted => exact h.on
    | redeemed _ r key u => simp [addRedemption, h.on]

end Ledger

section Scopes

variable {l l' : Ledger} {c : Coupon} {scope : CouponScope} {use : Use}

theorem CounterKey.exists_scope (key : CounterKey) :
    ∃ scope : CouponScope, key = scope.counterKey key.couponId := by
  cases key with
  | coupon id => exact ⟨.limited, rfl⟩
  | user id userId => exact ⟨.perUser userId, rfl⟩
  | product id productId => exact ⟨.perProduct productId, rfl⟩

theorem CouponScope.counterKey_inj {other : CouponScope} {id : CouponId}
    (same : other.counterKey id = scope.counterKey id) : other = scope := by
  cases other <;> cases scope <;> cases same <;> rfl

/-- A stored coupon has one scope. -/
theorem Ledger.WellFormed.exists_scoped (h : l.WellFormed) (stored : l.coupons.get? c.id = some c) :
    ∃ scope, l.Scoped c scope := by
  obtain ⟨key, u, of, scope, -, counted, unique⟩ := h.counter_of_stored stored
  obtain ⟨subject, same⟩ := CounterKey.exists_scope key
  rw [of] at same
  subst same
  refine ⟨subject, by rw [← scope, Ledger.scope_scopeKey], fun other => ⟨fun counts => ?_, ?_⟩⟩
  · by_contra different
    have none := unique (other.counterKey c.id) (Ledger.couponId_scopeKey _ _)
      fun same => different (CouponScope.counterKey_inj same)
    rw [none] at counts
    cases counts
  · rintro rfl
    rw [counted]
    rfl

/-- The use falls under the counter of the scope. -/
theorem Ledger.Scoped.key (has : l.Scoped c scope) (admits : scope.Admits use) :
    use.request.counterKey? c = some (scope.counterKey c.id) := by
  unfold EligibilityRequest.counterKey?
  rw [← has.kind]
  cases scope with
  | limited => rfl
  | perUser userId | perProduct productId =>
    rw [show _ = some _ from admits]
    rfl

/-- The counter goes on for as long as the coupon is there. -/
theorem Ledger.Scoped.counter_isSome_iff (has : l.Scoped c scope) (h : l.WellFormed)
    (h' : l'.WellFormed) (later : Continues l l') (stored : l.coupons.get? c.id = some c) :
    (l'.counter? (scope.counterKey c.id)).isSome = true ↔ l'.coupons.get? c.id ≠ none := by
  constructor
  · intro counts gone
    obtain ⟨u, counted⟩ := Option.isSome_iff_exists.1 counts
    obtain ⟨d, alive, -⟩ := h'.counter_live _ u counted
    rw [Ledger.couponId_scopeKey, Ledger.definition?, gone] at alive
    cases alive
  · intro alive
    obtain ⟨c', stored'⟩ := Option.ne_none_iff_exists'.1 alive
    obtain ⟨key, u, of, counted⟩ := h'.counter_exists c.id _ (Ledger.definition?_of_stored stored')
    have old := (h.issued c.id _ (Ledger.definition?_of_stored stored)).2
    obtain ⟨v, before, -⟩ := later.counter key u (by rw [of]; exact old) counted
    obtain ⟨subject, same⟩ := CounterKey.exists_scope key
    rw [of] at same
    subst same
    have it := (has.counter subject).1 (by rw [before]; rfl)
    subst it
    rw [counted]
    rfl

end Scopes

/-! ## How a use is decided -/

/-- The coupon was deleted before the call went on. -/
def Deleted (c : Coupon) (later : List Ledger) : Prop :=
  ∃ l ∈ later, l.coupons.get? c.id = none

/-- The verdict on a use of a coupon for its own subject depends on whether the coupon was deleted. -/
structure DecidedByDeletion (c : Coupon) (later : List Ledger) (verdict : Except ErrorKind Unit) : Prop where
  kept : ¬ Deleted c later → OkOrFailedPrecondition verdict
  limited : Deleted c later → c.scope = .limited → verdict = .error .notFound
  /-- The deletion of a coupon with a subject is taken for an inconsistent store. -/
  subject : Deleted c later → c.scope ≠ .limited → verdict = .error .internal

/-- How a call for a use ends, by the ledgers that its calls to the store have found. -/
def Decided (use : Use) (found : List Ledger) (verdict : Except ErrorKind Unit) : Prop :=
  ∃ l later, found = l :: later ∧
    match l.getByCode use.code with
    | .error _ => verdict = .error .notFound
    | .ok c => ∃ scope, l.Scoped c scope ∧ (scope.Admits use → DecidedByDeletion c later verdict)

section Decided

variable {use : Use} {l l' : Ledger} {later : List Ledger} {c : Coupon}
  {verdict : Except ErrorKind Unit}

theorem notFound_of_getByCode {code : String} {e : StoreError}
    (missing : l.getByCode code = .error e) : (CouponError.ofStore e).kind = .notFound := by
  unfold Ledger.getByCode at missing
  split at missing
  · cases missing
  · cases missing
    rfl

theorem DecidedByDeletion.of_kept (kept : ¬ Deleted c later) (either : OkOrFailedPrecondition verdict) :
    DecidedByDeletion c later verdict :=
  ⟨fun _ => either, fun gone => absurd gone kept, fun gone => absurd gone kept⟩

theorem DecidedByDeletion.of_lost (lost : l'.coupons.get? c.id = none) :
    DecidedByDeletion c [l'] (.error (l'.lossKind c)) := by
  refine ⟨fun kept => absurd ⟨l', List.mem_singleton.2 rfl, lost⟩ kept, fun _ limited => ?_,
    fun _ subject => ?_⟩
  · rw [Ledger.lossKind, if_pos ⟨limited, lost⟩]
  · rw [Ledger.lossKind, if_neg fun both => subject both.1]

/-- What was looked up has a scope, and a use for its subject falls under the counter of that scope. -/
theorem Decided.of_found (formed : l.WellFormed) (found : l.getByCode use.code = .ok c)
    (decided : ∀ scope, l.coupons.get? c.id = some c → l.Scoped c scope →
      use.request.counterKey? c = some (scope.counterKey c.id) → DecidedByDeletion c later verdict) :
    Decided use (l :: later) verdict := by
  obtain ⟨stored, -⟩ := formed.stored_of_getByCode found
  obtain ⟨scope, has⟩ := formed.exists_scoped stored
  refine ⟨l, later, rfl, ?_⟩
  rw [found]
  exact ⟨scope, has, fun admits => decided scope stored has (has.key admits)⟩

/-- Between ledgers that go on from each other, a call for a use ends as it should, except that it does not
know a deletion. -/
theorem Tries.decided {found : List Ledger} (tries : Tries use found verdict)
    (serving : ∀ l ∈ found, l.Serving) (ordered : found.Pairwise Continues) :
    Decided use found verdict := by
  cases tries with
  | unknown l e missing =>
    refine ⟨l, [], rfl, ?_⟩
    rw [missing]
    exact congrArg Except.error (notFound_of_getByCode missing)
  | judged l c found _ either =>
    refine .of_found (serving l (by simp)).formed found fun scope stored has key => ?_
    exact .of_kept (by simp [Deleted]) either
  | bare l c found limited without =>
    refine .of_found (serving l (by simp)).formed found fun scope stored has key => ?_
    have counts := (has.counter scope).2 rfl
    have kind := has.kind.trans limited
    cases scope with
    | limited =>
      simp only [CouponScope.counterKey, Ledger.counter?, stored, Option.bind_some, without] at counts
      cases counts
    | perUser | perProduct => cases kind
  | unnamed l later c found nameless =>
    refine .of_found (serving l (by simp)).formed found fun scope stored has key => ?_
    rw [nameless] at key
    cases key
  | counted l l' c found key named u counted _ either =>
    have formed := (serving l (by simp)).formed
    have later : Continues l l' := by simpa using ordered
    refine .of_found formed found fun scope stored has own => .of_kept ?_ either
    have alive := (has.counter_isSome_iff formed (serving l' (by simp)).formed later stored).1
      (by rw [Option.some.inj (own.symm.trans named), counted]; rfl)
    simpa [Deleted] using alive
  | gone l l' c found key named missing =>
    have formed := (serving l (by simp)).formed
    have later : Continues l l' := by simpa using ordered
    refine .of_found formed found fun scope stored has own => .of_lost ?_
    by_contra alive
    have counts := (has.counter_isSome_iff formed (serving l' (by simp)).formed later stored).2 alive
    rw [Option.some.inj (own.symm.trans named), missing] at counts
    cases counts
  | failing l l' failing =>
    have on := (serving l' (by simp)).on
    rw [on] at failing
    cases failing

end Decided

/-! ## Calls under way -/

/-- A call to the service, with the ledgers that its calls to the store have found. -/
structure Visit where
  call : ServiceCall
  rest : CouponProgram (Except CouponError call.Result)
  found : List Ledger

namespace Visit

/-- A call that has just come. -/
def come (call : ServiceCall) : Visit :=
  ⟨call, call.program, []⟩

/-- Makes the next call of a visit. -/
def turn (host : HostAnswers) (v : Visit) (l : Ledger) : Visit × Ledger :=
  match v.rest with
  | .done _ => (v, l)
  | .ask (.store c) next =>
    (⟨v.call, next (Ledger.answer c l).1, v.found ++ [l]⟩, (Ledger.answer c l).2)
  | .ask (.host c) next => (⟨v.call, next (host c), v.found⟩, l)

/-- How a call that is over has ended. -/
def verdict? (v : Visit) : Option (Except ErrorKind Unit) :=
  match v.rest with
  | .done r => some (outcome r)
  | .ask _ _ => none

/-- What is known of a call under way. -/
structure Honest (v : Visit) (l : Ledger) : Prop where
  /-- If it is for a use, it is on its way to one of the ends. -/
  tries : ∀ use, v.call.use? = some use →
    v.rest.Finds fun more r => Tries use (v.found ++ more) (outcome r)
  serving : ∀ x ∈ v.found, x.Serving
  ordered : v.found.Pairwise Continues
  /-- All that it has found leads to the present. -/
  present : ∀ x ∈ v.found, Continues x l

variable {v : Visit} {l l' : Ledger}

theorem honest_come (call : ServiceCall) (l : Ledger) : (come call).Honest l where
  tries _ asks := finds_program asks
  serving _ member := absurd member List.not_mem_nil
  ordered := .nil
  present _ member := absurd member List.not_mem_nil

/-- The moves of others only lead on. -/
theorem Honest.later (h : v.Honest l) (later : Continues l l') : v.Honest l' where
  tries := h.tries
  serving := h.serving
  ordered := h.ordered
  present x member := (h.present x member).trans later

theorem Honest.turn (h : v.Honest l) (serving : l.Serving) (host : HostAnswers) :
    (v.turn host l).1.Honest (v.turn host l).2 ∧ Continues l (v.turn host l).2 ∧
      (v.turn host l).2.Serving := by
  obtain ⟨call, rest, found⟩ := v
  obtain ⟨tries, sound, ordered, present⟩ := h
  match rest, tries with
  | .done r, tries => exact ⟨⟨tries, sound, ordered, present⟩, .refl l, serving⟩
  | .ask (.host c) next, tries =>
    exact ⟨⟨fun use asks => tries use asks (host c), sound, ordered, present⟩, .refl l, serving⟩
  | .ask (.store c) next, tries =>
    have later : Continues l (Ledger.answer c l).2 := .effect serving.formed (Ledger.effect_answer l c)
    refine ⟨⟨fun use asks => ?_, ?_, ?_, ?_⟩, later, serving.answer c⟩
    · show (next (Ledger.answer c l).1).Finds fun more r => Tries use (found ++ [l] ++ more) (outcome r)
      simp only [List.append_assoc, List.singleton_append]
      exact tries use asks l
    · exact List.forall_mem_append.2 ⟨sound, List.forall_mem_singleton.2 serving⟩
    · exact List.pairwise_append.2 ⟨ordered, List.pairwise_singleton _ _, fun x member y last => by
        rw [List.mem_singleton.1 last]
        exact present x member⟩
    · exact List.forall_mem_append.2
        ⟨fun x member => (present x member).trans later, List.forall_mem_singleton.2 later⟩

/-- A call that is over is decided. -/
theorem Honest.decided (h : v.Honest l) {use : Use} (asks : v.call.use? = some use)
    {verdict : Except ErrorKind Unit} (ended : v.verdict? = some verdict) :
    Decided use v.found verdict := by
  obtain ⟨call, rest, found⟩ := v
  cases rest with
  | ask c next => cases ended
  | done r =>
    cases ended
    have tries : Tries use (found ++ []) (outcome r) := h.tries use asks
    rw [List.append_nil] at tries
    exact tries.decided h.serving h.ordered

end Visit

/-! ## The desk -/

/-- A ledger, and the calls to the service over it. -/
structure Desk where
  ledger : Ledger
  visits : List Visit

namespace Desk

/-- A call comes, or one of those under way makes its next call, to the store or to its host. -/
inductive Move where
  | come (call : ServiceCall)
  | turn (i : Nat) (host : HostAnswers)

/-- No call has come. -/
def opened (l : Ledger) : Desk :=
  ⟨l, []⟩

/-- The desk after a move. -/
def exec (d : Desk) : Move → Desk
  | .come call => { d with visits := d.visits ++ [.come call] }
  | .turn i host =>
    match d.visits[i]? with
    | none => d
    | some v => ⟨(v.turn host d.ledger).2, d.visits.set i (v.turn host d.ledger).1⟩

/-- The desk after a schedule. -/
def run (d : Desk) (moves : List Move) : Desk :=
  moves.foldl exec d

theorem exec_turn {d : Desk} {i : Nat} {v : Visit} (here : d.visits[i]? = some v) (host : HostAnswers) :
    d.exec (.turn i host) = ⟨(v.turn host d.ledger).2, d.visits.set i (v.turn host d.ledger).1⟩ := by
  simp only [exec, here]

/-- What is known at any time. -/
structure Sound (d : Desk) : Prop where
  serving : d.ledger.Serving
  honest : ∀ v ∈ d.visits, v.Honest d.ledger

variable {d : Desk}

theorem Sound.exec (h : d.Sound) (move : Move) : (d.exec move).Sound := by
  cases move with
  | come call =>
    exact ⟨h.serving, List.forall_mem_append.2
      ⟨h.honest, List.forall_mem_singleton.2 (Visit.honest_come call d.ledger)⟩⟩
  | turn i host =>
    cases at_i : d.visits[i]? with
    | none =>
      simp only [Desk.exec, at_i]
      exact h
    | some v =>
      rw [exec_turn at_i]
      have mine := h.honest v (List.mem_of_getElem? at_i)
      obtain ⟨honest, later, serving⟩ := mine.turn h.serving host
      refine ⟨serving, fun w member => ?_⟩
      rcases List.mem_or_eq_of_mem_set member with other | rfl
      · exact (h.honest w other).later later
      · exact honest

theorem Sound.run (h : d.Sound) (moves : List Move) : (d.run moves).Sound := by
  induction moves generalizing d with
  | nil => exact h
  | cons move moves ih => exact ih (h.exec move)

/-- Every call comes to its end, if it is given the turns. The induction is on what is left of it. -/
theorem finishes {i : Nat} {v : Visit} (here : d.visits[i]? = some v) (host : HostAnswers) :
    ∃ n w verdict, (d.run (List.replicate n (.turn i host))).visits[i]? = some w ∧ w.call = v.call ∧
      w.verdict? = some verdict := by
  obtain ⟨call, rest, found⟩ := v
  induction rest generalizing d found with
  | done r => exact ⟨0, _, _, here, rfl, rfl⟩
  | ask c next ih =>
    have bound : i < d.visits.length := (List.getElem?_eq_some_iff.1 here).1
    obtain ⟨answer, found', now⟩ : ∃ answer found',
        (d.exec (.turn i host)).visits[i]? = some ⟨call, next answer, found'⟩ := by
      rw [exec_turn here]
      cases c with
      | store c => exact ⟨_, _, List.getElem?_set_self bound⟩
      | host c => exact ⟨_, _, List.getElem?_set_self bound⟩
    obtain ⟨n, w, verdict, there, same, ended⟩ := ih answer found' now
    exact ⟨n + 1, w, verdict, there, same, ended⟩

/-- **A use for the subject of its coupon is allowed, refused for now, or not found, unless the coupon is
deleted between the look-up and what follows**: then it depends on the scope whether the coupon is not
found, or the error is internal. Every call comes to its end, if it is given the turns. -/
theorem decided_run {l : Ledger} (reached : l.Reachable) (on : l.failOnRedeem = false)
    (moves : List Move) :
    let d := (opened l).run moves
    ∀ i v use, d.visits[i]? = some v → v.call.use? = some use →
      (∀ verdict, v.verdict? = some verdict → Decided use v.found verdict) ∧
      ∀ host, ∃ n w verdict, (d.run (List.replicate n (.turn i host))).visits[i]? = some w ∧
        w.call = v.call ∧ w.verdict? = some verdict := by
  intro d i v use here asks
  have start : (opened l).Sound :=
    ⟨⟨reached.wellFormed, on⟩, fun v member => absurd member List.not_mem_nil⟩
  have honest := (start.run moves).honest v (List.mem_of_getElem? here)
  exact ⟨fun verdict ended => honest.decided asks ended, finishes here⟩

section Race

/-- The ledger with a coupon of one use and this scope. -/
def stocked (scope : CouponScope) : Ledger :=
  (Ledger.empty.createCoupon { Ledger.single with scope := scope }).2

/-- A call makes its first calls, then the coupon is deleted, then the call goes on to its end. -/
def race (call : ServiceCall) (first : Nat) : List Move :=
  let host := HostAnswers.stopped ⟨5, 0⟩
  [.come call, .come (.delete ⟨⟨1⟩, .admin⟩ ⟨1⟩)] ++ List.replicate first (.turn 0 host) ++
    List.replicate 2 (.turn 1 host) ++ List.replicate 5 (.turn 0 host)

theorem reachable_stocked (scope : CouponScope) : (stocked scope).Reachable :=
  .exec .empty (.call (.createCoupon { Ledger.single with scope := scope }))

theorem serving_stocked (scope : CouponScope) : (stocked scope).Serving :=
  Ledger.Serving.answer ⟨.empty, rfl⟩ (.createCoupon { Ledger.single with scope := scope })

/-- A coupon for a user is applied by that user, while it is deleted. -/
theorem decided_run_deleted :
    let call : ServiceCall := .apply ⟨⟨5⟩, .user⟩ "ONCE" none
    let l := stocked (.perUser ⟨5⟩)
    l.Reachable ∧ l.failOnRedeem = false ∧
      ∃ v, ((opened l).run (race call 1)).visits[0]? = some v ∧ v.call = call ∧
        v.verdict? = some (.error .internal) ∧
        Decided ⟨"ONCE", .enforceFor ⟨5⟩ none⟩ v.found (.error .internal) := by
  intro call l
  have ends : ((opened l).run (race call 1)).visits[0]?.map (fun v => (v.call, v.verdict?)) =
      some (call, some (.error .internal)) := by decide +kernel
  obtain ⟨v, here, same⟩ := Option.map_eq_some_iff.1 ends
  obtain ⟨asked, ended⟩ := Prod.mk.inj same
  have on : l.failOnRedeem = false := (serving_stocked _).on
  have decided := decided_run (reachable_stocked (.perUser ⟨5⟩)) on (race call 1) 0 v
    ⟨"ONCE", .enforceFor ⟨5⟩ none⟩ here (by rw [asked]; rfl)
  exact ⟨reachable_stocked _, on, v, here, asked, ended, decided.1 _ ended⟩

/-- A user applies or checks the coupon that was created for just this user or product. When it is deleted
in between the error is internal, where a limited coupon is not found. -/
theorem internal_of_deleted :
    let user : Identity := ⟨⟨5⟩, .user⟩
    let apply : ServiceCall := .apply user "ONCE" (some ⟨7⟩)
    let use : Use := ⟨"ONCE", .enforceFor ⟨5⟩ (some ⟨7⟩)⟩
    let check : ServiceCall := .check use.code use.request
    let ends := fun scope call first =>
      ((opened (stocked scope)).run (race call first)).visits.map Visit.verdict?
    (∀ scope, (stocked scope).Reachable) ∧ (∀ scope, (stocked scope).failOnRedeem = false) ∧
      apply.use? = some use ∧ check.use? = some use ∧
      CouponScope.Admits use (.perUser ⟨5⟩) ∧ CouponScope.Admits use (.perProduct ⟨7⟩) ∧
      ends .limited apply 1 = [some (.error .notFound), some (.ok ())] ∧
      ends (.perUser ⟨5⟩) apply 1 = [some (.error .internal), some (.ok ())] ∧
      ends (.perProduct ⟨7⟩) apply 1 = [some (.error .internal), some (.ok ())] ∧
      ends (.perUser ⟨5⟩) check 2 = [some (.error .internal), some (.ok ())] ∧
      ends (.perProduct ⟨7⟩) check 2 = [some (.error .internal), some (.ok ())] := by
  intro user apply use check ends
  exact ⟨reachable_stocked, fun scope => (serving_stocked scope).on, rfl, rfl, rfl, rfl, by decide +kernel⟩

end Race

end Desk

end Couponry
