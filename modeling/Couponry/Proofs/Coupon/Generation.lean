import Couponry.Proofs.Coupon.Alone
import Couponry.Proofs.Coupon.Decision

/-!
# Creation under generated codes

A creation hands the same coupon to the store under one generated code after another, until it gets an
answer other than that the code is taken. `Tries` describes the answers and what is made of them,
whatever the store. On a ledger, a creation that succeeds adds exactly this coupon, and a look-up finds it.
-/

namespace Couponry

open Program Couponry.Text

/-- The request is for a coupon that may be stored, whatever its code. -/
structure CreateCoupon.Sound (request : CreateCoupon) : Prop where
  window : request.validFrom < request.validTo
  discount : request.discount.InRange
  total : 0 < request.total

/-- The coupon that a request asks for, under the code of some letters. -/
def CreateCoupon.coded (request : CreateCoupon) (creator : UserId) (now : Instant) (letters : List Letter) :
    NewCoupon where
  code := Code.assemble Code.start now letters
  validFrom := request.validFrom
  validTo := request.validTo
  discount := request.discount
  scope := request.scope
  total := request.total
  description := request.description
  imageUrl := request.imageUrl
  createdBy := creator
  createdAt := now

/-- The counter of a coupon that is limited as a whole, of which no use is taken. -/
def CreateCoupon.ownCounter (request : CreateCoupon) : Option Usage :=
  if request.scope = .limited then some ⟨0, request.total⟩ else none

/-- The coupon that a request asks for, as it is to be stored. -/
def CreateCoupon.asStored (request : CreateCoupon) (created : CreatedCoupon) (creator : UserId)
    (now : Instant) : Coupon where
  id := created.id
  code := created.code
  validFrom := request.validFrom
  validTo := request.validTo
  discount := request.discount
  scope := request.scope.withoutSubject
  usage := request.ownCounter
  description := request.description
  imageUrl := request.imageUrl
  createdBy := creator
  createdAt := now
  updatedAt := none

/-- What a look-up shows of the coupon that a request asks for. -/
def CreateCoupon.shown (request : CreateCoupon) (code : String) (usage : Option Usage) : CouponView where
  code := code
  discount := request.discount
  scope := request.scope.withoutSubject
  validFrom := request.validFrom
  validTo := request.validTo
  usage := usage
  description := request.description
  imageUrl := request.imageUrl
  canUse := true

/-- A look-up for display that names the subject of a scope. -/
def CouponScope.lookup : CouponScope → EligibilityRequest
  | .limited => ⟨none, none, false⟩
  | .perUser userId => ⟨some userId, none, false⟩
  | .perProduct productId => ⟨none, some productId, false⟩

namespace Service

/-- All codes that were tried are taken. -/
def unable : CouponError :=
  .internal "unable to generate a unique coupon code"

/-- The replies of a store that is asked to create a coupon at most so many times, and what is made of
them: the store is asked again just when a code is taken. -/
inductive Tries (request : CreateCoupon) (creator : UserId) (now : Instant) :
    Nat → List Reply → Except CouponError CreatedCoupon → Prop where
  | spent : Tries request creator now 0 [] (.error unable)
  | accepted (left : Nat) (letters : List Letter) (id : CouponId) :
      Tries request creator now (left + 1)
        [⟨.createCoupon (request.coded creator now letters), .ok id⟩]
        (.ok ⟨id, Code.assemble Code.start now letters⟩)
  | failed (left : Nat) (letters : List Letter) (e : StoreError) (other : ∀ code, e ≠ .duplicateCode code) :
      Tries request creator now (left + 1)
        [⟨.createCoupon (request.coded creator now letters), .error e⟩] (.error (.ofStore e))
  | again (left : Nat) (letters : List Letter) (code : String) {replies : List Reply}
      {result : Except CouponError CreatedCoupon} (rest : Tries request creator now left replies result) :
      Tries request creator now (left + 1)
        (⟨.createCoupon (request.coded creator now letters), .error (.duplicateCode code)⟩ :: replies)
        result

/-- The store has refused a coupon because its code is taken. -/
def Refused : Reply → Prop
  | ⟨.createCoupon _, .error (.duplicateCode _)⟩ => True
  | _ => False

theorem not_refused {coupon : NewCoupon} {e : StoreError} (other : ∀ code, e ≠ .duplicateCode code) :
    ¬Refused ⟨.createCoupon coupon, .error e⟩ := by
  cases e with
  | duplicateCode code => exact absurd rfl (other code)
  | _ => exact id

/-- The conversation of a creation with a store. -/
structure Creation (caller : Identity) (request : CreateCoupon) (replies : List Reply)
    (result : Except CouponError CreatedCoupon) : Prop where
  /-- What must not be stored is refused before the store is asked. -/
  unsound : ¬request.Sound → replies = [] ∧ ∃ why, result = .error (.invalidArgument why)
  /-- Otherwise the store is asked, up to three times for the same coupon under new codes. -/
  tried : request.Sound → ∃ now, Tries request caller.userId now 3 replies result
  few : replies.length ≤ 3
  spent : result = .error unable ↔ replies.length = 3 ∧ ∀ r ∈ replies, Refused r
  /-- No ledger finds anything wrong with a coupon that it is asked to create. -/
  accepted : ∀ coupon answer, ⟨.createCoupon coupon, answer⟩ ∈ replies →
    ∀ (l : Ledger) message, (l.createCoupon coupon).1 ≠ .error (.invalidCoupon message)

variable {request : CreateCoupon} {creator : UserId} {now : Instant} {left : Nat} {rs : List Reply}
  {result : Except CouponError CreatedCoupon}

/-! ## Generated codes -/

theorem converses_draw (n : Nat) : (Code.draw n).Converses fun log _ => storeReplies log = [] := by
  induction n with
  | zero => rfl
  | succ n ih =>
    refine fun letter => ih.bind fun log letters quiet => ?_
    show storeReplies (log ++ []) = []
    rwa [List.append_nil]

theorem converses_generate (now : Instant) : (Code.generate Code.start now).Converses fun log code =>
    storeReplies log = [] ∧ ∃ letters, code = Code.assemble Code.start now letters := by
  refine (converses_draw Code.suffixLength).bind fun log letters quiet => ?_
  refine ⟨?_, letters, rfl⟩
  rwa [List.append_nil]

/-- A generated code starts with a letter. -/
theorem not_white_assemble (now : Instant) (letters : List Letter) :
    ¬OnlyWhiteSpace (Code.assemble Code.start now letters) := by
  rw [← allBlank_eq_false_iff, allBlank, Code.assemble, String.toList_ofList]
  rfl

/-- The code of a generated coupon is never what is wrong with it. -/
theorem sound_coded_iff (request : CreateCoupon) (creator : UserId) (now : Instant) (letters : List Letter) :
    (request.coded creator now letters).fault? = none ↔ request.Sound := by
  rw [NewCoupon.sound_iff]
  constructor
  · exact fun valid => ⟨valid.window, valid.discount, valid.total⟩
  · exact fun sound => ⟨not_white_assemble now letters, sound.window, sound.discount, sound.total⟩

/-! ## The tries -/

theorem storeReplies_append (log rest : List CouponExchange) :
    storeReplies (log ++ rest) = storeReplies log ++ storeReplies rest :=
  List.filterMap_append

/-- The induction is on the tries that are left. -/
theorem converses_tryCodes (request : CreateCoupon) (creator : UserId) (now : Instant) (left : Nat)
    (letters : List Letter) : (tryCodes now left (request.coded creator now letters)).Converses
      fun log result => Tries request creator now left (storeReplies log) result := by
  induction left generalizing letters with
  | zero => exact .spent
  | succ left ih =>
    intro answer
    cases answer with
    | ok id => exact fun _ _ => .accepted left letters id
    | error e =>
      cases e with
      | duplicateCode code =>
        refine fun _ => (converses_generate now).bind ?_
        rintro log _ ⟨quiet, letters', rfl⟩
        refine (ih letters').mono fun rest result tries => ?_
        have later : Tries request creator now left (storeReplies (log ++ rest)) result := by
          rwa [storeReplies_append, quiet, List.nil_append]
        exact .again left letters code later
      | _ => exact .failed left letters _ nofun

theorem converses_createCoupon {caller : Identity} (admin : caller.isAdmin = true) (request : CreateCoupon) :
    (createCoupon caller request).Converses fun log result =>
      (¬request.Sound → storeReplies log = [] ∧ ∃ why, result = .error (.invalidArgument why)) ∧
        (request.Sound → ∃ now, Tries request caller.userId now 3 (storeReplies log) result) := by
  simp only [createCoupon, admin, Bool.not_true, Bool.false_eq_true, if_false]
  refine fun now => (converses_generate now).bind ?_
  rintro log _ ⟨quiet, letters, rfl⟩
  have sound_iff : (request.toNewCoupon (Code.assemble Code.start now letters) caller.userId now).fault? =
      none ↔ request.Sound := sound_coded_iff request caller.userId now letters
  dsimp only
  split
  · next fault wrong =>
    refine ⟨fun _ => ⟨?_, _, rfl⟩, fun sound => ?_⟩
    · show storeReplies (log ++ []) = []
      rw [List.append_nil]
      exact quiet
    · exact absurd (wrong.symm.trans (sound_iff.2 sound)) (Option.some_ne_none fault)
  · next right =>
    refine (converses_tryCodes request caller.userId now maxAttempts letters).mono fun rest result tries => ?_
    refine ⟨fun unsound => absurd (sound_iff.1 right) unsound, fun _ => ⟨now, ?_⟩⟩
    show Tries request caller.userId now 3 (storeReplies (log ++ rest)) result
    rwa [storeReplies_append, quiet, List.nil_append]

/-! ## What the tries come to -/

theorem Tries.length_le (tries : Tries request creator now left rs result) : rs.length ≤ left := by
  induction tries with
  | spent => exact Nat.le_refl 0
  | accepted | failed => exact Nat.succ_le_succ (Nat.zero_le _)
  | again _ _ _ _ ih => exact Nat.succ_le_succ ih

/-- Whatever the store is asked for, it is the same coupon under a generated code. -/
theorem Tries.coded (tries : Tries request creator now left rs result) {r : Reply} (member : r ∈ rs) :
    ∃ letters, r.call = .createCoupon (request.coded creator now letters) := by
  induction tries with
  | spent => cases member
  | accepted _ letters _ | failed _ letters _ _ =>
    cases List.mem_singleton.1 member
    exact ⟨letters, rfl⟩
  | again _ letters _ _ ih =>
    rcases List.mem_cons.1 member with rfl | later
    · exact ⟨letters, rfl⟩
    · exact ih later

theorem head_append {a b : String} {c : Char} (first : a.toList.head? = some c) :
    (a ++ b).toList.head? = some c := by
  rw [String.toList_append, List.head?_append, first]
  rfl

/-- What is said of a failure of the store starts with a capital. -/
theorem head_message (e : StoreError) : ∃ c, e.message.toList.head? = some c ∧ c.isUpper = true := by
  cases e with
  | couponNotFound _ | couponIdNotFound _ | duplicateCode _ | invalidCoupon _ | corrupt _ | database _
  | migration _ => exact ⟨_, head_append rfl, rfl⟩
  | quotaExhausted _ _ | grantNotFound _ _ => exact ⟨_, head_append (head_append (head_append rfl)), rfl⟩
  | missingSubject _ => exact ⟨_, head_append (head_append (head_append (head_append rfl))), rfl⟩

theorem message_of_internal {e : StoreError} {why : String} (same : CouponError.ofStore e = .internal why) :
    e.message = why := by
  cases e <;> first | exact CouponError.internal.inj same | cases same

/-- No failure of the store is taken for the failure to find a code. -/
theorem ofStore_ne_unable (e : StoreError) : CouponError.ofStore e ≠ unable := by
  intro same
  obtain ⟨c, first, upper⟩ := head_message e
  rw [message_of_internal same] at first
  cases first
  cases upper

theorem Tries.spent_iff (tries : Tries request creator now left rs result) :
    result = .error unable ↔ rs.length = left ∧ ∀ r ∈ rs, Refused r := by
  induction tries with
  | spent => exact iff_of_true rfl ⟨rfl, fun _ member => absurd member List.not_mem_nil⟩
  | accepted left letters id =>
    exact iff_of_false nofun fun ⟨_, all⟩ => all _ List.mem_cons_self
  | failed left letters e other =>
    refine iff_of_false (fun same => ofStore_ne_unable e (Except.error.inj same)) fun ⟨_, all⟩ => ?_
    exact not_refused other (all _ List.mem_cons_self)
  | again left letters code rest ih =>
    rw [ih, List.length_cons, List.forall_mem_cons]
    constructor
    · exact fun ⟨length, all⟩ => ⟨congrArg Nat.succ length, trivial, all⟩
    · exact fun ⟨length, _, all⟩ => ⟨Nat.succ.inj length, all⟩

/-- A ledger takes a coupon with which nothing is wrong, if its code is free. -/
theorem createCoupon_ne_invalid {coupon : NewCoupon} (sound : coupon.fault? = none) (l : Ledger)
    (message : String) : (l.createCoupon coupon).1 ≠ .error (.invalidCoupon message) := by
  rw [Ledger.createCoupon, sound]
  by_cases taken : l.codes.contains coupon.code = true
  · simp [taken]
  · simp [taken]

theorem creation_of_tries {caller : Identity} {request : CreateCoupon}
    (unsound : ¬request.Sound → rs = [] ∧ ∃ why, result = .error (.invalidArgument why))
    (tried : request.Sound → ∃ now, Tries request caller.userId now 3 rs result) :
    Creation caller request rs result := by
  refine ⟨unsound, tried, ?_, ?_, ?_⟩
  all_goals by_cases sound : request.Sound
  · obtain ⟨now, tries⟩ := tried sound
    exact tries.length_le
  · rw [(unsound sound).1]
    exact Nat.zero_le 3
  · obtain ⟨now, tries⟩ := tried sound
    exact tries.spent_iff
  · obtain ⟨rfl, why, rfl⟩ := unsound sound
    exact iff_of_false nofun fun ⟨three, _⟩ => nomatch three
  · obtain ⟨now, tries⟩ := tried sound
    intro coupon answer member
    obtain ⟨letters, asked⟩ := tries.coded member
    rw [StoreCall.createCoupon.inj asked]
    exact createCoupon_ne_invalid ((sound_coded_iff request caller.userId now letters).2 sound)
  · rw [(unsound sound).1]
    exact fun _ _ member => absurd member List.not_mem_nil

/-! ## Creations on a ledger -/

/-- Exactly the coupon that was asked for is added, under a code that no coupon had, with one counter. A
look-up of the code finds it. -/
structure Adds (request : CreateCoupon) (creator : UserId) (created : CreatedCoupon) (l after : Ledger) :
    Prop where
  unknown : ∀ id c, l.coupons.get? id = some c → c.code ≠ created.code
  unused : l.coupons.get? created.id = none
  coupons : ∃ now, ∀ id, after.coupons.get? id =
    if id = created.id then some (request.asStored created creator now) else l.coupons.get? id
  codes : ∀ code, after.codes.get? code =
    if code = created.code then some created.id else l.codes.get? code
  counters : ∀ key, after.counter? key =
    if key = request.scope.counterKey created.id then some ⟨0, request.total⟩ else l.counter? key
  redemptions : after.redemptions = l.redemptions
  lastRedemptionId : after.lastRedemptionId = l.lastRedemptionId
  failOnRedeem : after.failOnRedeem = l.failOnRedeem
  shown : ∀ host, Ledger.perform host (retrieveCoupon created.code ⟨none, none, false⟩) after =
    (.ok (request.shown created.code request.ownCounter), after)
  counted : ∀ host, Ledger.perform host (retrieveCoupon created.code request.scope.lookup) after =
    (.ok (request.shown created.code (some ⟨0, request.total⟩)), after)

section OnLedger

variable {l : Ledger} {c : Coupon} {code : String}

/-- What is stored of a request is what it asks for. -/
theorem stored_toNewCoupon (request : CreateCoupon) (code : String) (creator : UserId) (now : Instant)
    (id : CouponId) : (request.toNewCoupon code creator now).stored id =
      request.asStored ⟨id, code⟩ creator now := by
  obtain ⟨validFrom, validTo, discount, scope, total, description, imageUrl⟩ := request
  cases scope <;> rfl

/-- A look-up for display shows the coupon that the code leads to. -/
theorem retrieve_of_found (host : HostAnswers) (found : l.couponOf? code = some c)
    {q : EligibilityRequest} (unenforced : q.enforce = false) :
    Ledger.perform host (retrieveCoupon code q) l = (.ok (c.view (l.limit c q).join true), l) := by
  rw [Ledger.perform_retrieveCoupon, Ledger.perform_check, found]
  simp [Coupon.verdict, unenforced]

/-- What is shown of a stored coupon is what was asked for. -/
theorem view_asStored (request : CreateCoupon) (created : CreatedCoupon) (creator : UserId) (now : Instant)
    (usage : Option Usage) : (request.asStored created creator now).view usage true =
      request.shown created.code usage := rfl

/-- A look-up that names nobody shows the counter of the coupon itself. -/
theorem limit_display (l : Ledger) (request : CreateCoupon) (created : CreatedCoupon) (creator : UserId)
    (now : Instant) : (l.limit (request.asStored created creator now) ⟨none, none, false⟩).join =
      request.ownCounter := by
  unfold Ledger.limit CreateCoupon.asStored CouponScope.withoutSubject CreateCoupon.ownCounter
  cases request.scope <;> rfl

/-- A request that names the subject of the scope is under the counter of the scope. -/
theorem limit_lookup (kind : c.scope = request.scope.withoutSubject) (stored : l.coupons.get? c.id = some c) :
    l.limit c request.scope.lookup = some (l.counter? (request.scope.counterKey c.id)) := by
  unfold Ledger.limit
  rw [kind]
  cases request.scope with
  | limited => simp [CouponScope.withoutSubject, CouponScope.counterKey, Ledger.counter?, stored]
  | perUser userId => rfl
  | perProduct productId => rfl

theorem adds_of_created (formed : l.WellFormed) {creator : UserId} {id : CouponId} {after : Ledger}
    (made : l.createCoupon (request.toNewCoupon code creator now) = (.ok id, after)) :
    Adds request creator ⟨id, code⟩ l after := by
  obtain ⟨-, free, rfl, rfl⟩ := Ledger.createCoupon_eq_ok made
  have unused : l.coupons.get? l.nextCouponId = none := Option.map_eq_none_iff.1 formed.definition?_next
  have unknown : l.couponOf? code = none := by
    rw [Ledger.couponOf?, show l.codes.get? code = none from free]
    rfl
  let new := request.toNewCoupon code creator now
  let coupon := request.asStored ⟨l.nextCouponId, code⟩ creator now
  have made : new.stored l.nextCouponId = coupon := stored_toNewCoupon request code creator now _
  have stored : (l.addCoupon new).coupons.get? l.nextCouponId = some coupon := by
    rw [Ledger.coupons_addCoupon, Table.get?_insert, if_pos rfl, made]
  have named : (l.addCoupon new).codes.get? code = some l.nextCouponId := by
    rw [Ledger.codes_addCoupon, Table.get?_insert]
    exact if_pos rfl
  have found : (l.addCoupon new).couponOf? code = some coupon := by
    rw [Ledger.couponOf?, named, Option.bind_some, stored]
  have counters := Ledger.counter?_addCoupon new formed.counter?_next
  exact {
    unknown := formed.couponOf?_eq_none_iff.1 unknown
    unused := unused
    coupons := ⟨now, fun id => by rw [Ledger.coupons_addCoupon, Table.get?_insert, made]⟩
    codes := fun other => by
      rw [Ledger.codes_addCoupon, Table.get?_insert]
      rfl
    counters := counters
    redemptions := Ledger.redemptions_addCoupon l new
    lastRedemptionId := Ledger.lastRedemptionId_addCoupon l new
    failOnRedeem := Ledger.failOnRedeem_addCoupon l new
    shown := fun host => by
      rw [retrieve_of_found host found rfl, limit_display, view_asStored]
    counted := fun host => by
      have enforce : request.scope.lookup.enforce = false := by cases request.scope <;> rfl
      have fresh : (l.addCoupon new).counter? (request.scope.counterKey l.nextCouponId) =
          some ⟨0, request.total⟩ := (counters _).trans (if_pos rfl)
      have limit : (l.addCoupon new).limit coupon request.scope.lookup = some (some ⟨0, request.total⟩) :=
        (limit_lookup rfl stored).trans (congrArg some fresh)
      rw [retrieve_of_found host found enforce, limit, view_asStored]
      rfl }

/-- What a creation leaves of a ledger that calls lead to. -/
theorem leaves_of_issued {creator : UserId} {s s' : Stores} {raised : List Counter}
    (issued : Scene.Issued request creator s result s' raised) (formed : s.ledger.WellFormed) :
    (∀ e, result = .error e → s'.ledger = s.ledger) ∧
      ∀ created, result = .ok created → Adds request creator created s.ledger s'.ledger := by
  cases issued with
  | refused e => exact ⟨fun _ _ => rfl, nofun⟩
  | created code now id l made =>
    refine ⟨nofun, ?_⟩
    rintro _ ⟨⟩
    exact adds_of_created formed made

end OnLedger

/-- **A creation by an admin.** Whatever the store answers, it is asked at most three times for the same
coupon under new codes, and only for one that may be stored; what comes of it is what the last answer says.
On a ledger nothing or exactly this coupon is added, and a look-up of its code finds it. -/
theorem created_as_asked {caller : Identity} (admin : caller.role = .admin ∨ caller.role = .superAdmin)
    (request : CreateCoupon) :
    (∀ {σ : Type} (serve : (c : CouponCall) → σ → CouponCalls.Answer c × σ) (s : σ),
        Creation caller request (storeReplies ((createCoupon caller request).conversation serve s))
          ((createCoupon caller request).run serve s).1) ∧
      ∀ (script : HostScript) (t : Scene), t.stores.ledger.Reachable →
        let result := ((createCoupon caller request).run (Scene.coupon script) t).1
        let after := ((createCoupon caller request).run (Scene.coupon script) t).2.stores.ledger
        (∀ e, result = .error e → after = t.stores.ledger) ∧
          ∀ created, result = .ok created → Adds request caller.userId created t.stores.ledger after := by
  constructor
  · intro σ serve s
    have talk : (createCoupon caller request).Converses fun log result =>
        Creation caller request (storeReplies log) result :=
      (converses_createCoupon (Identity.isAdmin_iff.2 admin) request).mono fun log result ⟨unsound, tried⟩ =>
        creation_of_tries unsound tried
    exact talk.conversation serve s
  · intro script t reached result after
    have ensures : (createCoupon caller request).Ensures (Scene.coupon script) _ t :=
      Scene.ensures_issued caller request t
    obtain ⟨s, raised, issued, leads⟩ := ensures
    have same : after = s.ledger := congrArg Stores.ledger leads.stores
    rw [same]
    exact leaves_of_issued issued reached.wellFormed

/-- An admin creates a coupon of one use for one user, on a ledger without coupons. -/
theorem created_as_asked_once :
    let request : CreateCoupon := ⟨⟨0, 0⟩, ⟨10, 0⟩, .percent 50, .perUser ⟨2⟩, 1, none, none⟩
    let after := (createCoupon ⟨⟨1⟩, .admin⟩ request).run (Scene.coupon fun _ => .stopped ⟨5, 0⟩)
      ⟨⟨.empty, .empty⟩, 0, []⟩
    Ledger.Reachable .empty ∧
      ∃ created, after.1 = .ok created ∧ Adds request ⟨1⟩ created .empty after.2.stores.ledger := by
  intro request after
  have admin : (⟨⟨1⟩, .admin⟩ : Identity).role = .admin ∨ (⟨⟨1⟩, .admin⟩ : Identity).role = .superAdmin :=
    .inl rfl
  have creations := created_as_asked admin request
  have adds := (creations.2 (fun _ => .stopped ⟨5, 0⟩) ⟨⟨.empty, .empty⟩, 0, []⟩ .empty).2
  have success : after.1.isOk = true := by decide +kernel
  refine ⟨.empty, ?_⟩
  cases made : after.1 with
  | error e =>
    rw [made] at success
    cases success
  | ok created => exact ⟨created, rfl, adds created made⟩

end Service

end Couponry
