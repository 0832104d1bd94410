import Couponry.Proofs.Coupon.Run
import Couponry.Proofs.Sql.Agreement

/-!
# Runs of the two stores

Whatever is asked of a ledger and of the store of coupons on a server, from the beginning on, both
reply the same. `agree` is one call; a run adds that a coupon that was given out stays known, whatever
happens to it afterwards.
-/

namespace Couponry

/-- The replies of a store to calls, one after another. -/
def replies {σ : Type} (answer : (c : StoreCall) → σ → c.Answer × σ) : List StoreCall → σ → List Reply
  | [], _ => []
  | c :: rest, s => ⟨c, (answer c s).1⟩ :: replies answer rest (answer c s).2

namespace Reply

/-- The coupon that a look-up gave. -/
def given? : Reply → Option Coupon
  | ⟨.getByCode _, .ok coupon⟩ => some coupon
  | _ => none

/-- The coupon that a redemption was handed. -/
def handed? : Reply → Option Coupon
  | ⟨.redeem coupon _ _ _, _⟩ => some coupon
  | _ => none

end Reply

/-- Every redemption was handed a coupon that was known before, or that an earlier look-up gave. -/
def Issued (known : List Coupon) : List Reply → Prop
  | [] => True
  | reply :: rest =>
    (∀ coupon ∈ reply.handed?, coupon ∈ known) ∧ Issued (reply.given?.toList ++ known) rest

instance decidableIssued : (known : List Coupon) → (replies : List Reply) →
    Decidable (Issued known replies)
  | _, [] => isTrue trivial
  | known, reply :: rest =>
    have := decidableIssued (reply.given?.toList ++ known) rest
    inferInstanceAs (Decidable (_ ∧ _))

namespace Sql

/-- Answers a call to the store of coupons by the statements that it sends to a server. -/
def answerOn (c : StoreCall) (s : Server) : c.Answer × Server :=
  onServer (Coupons.answer c) s

namespace Known

variable {l : Ledger} {coupon : Coupon}

/-- What is known of a coupon stays known. -/
theorem later {l' : Ledger} (known : Known l coupon) (later : l.Later l') : Known l' coupon :=
  ⟨Int.le_trans known.1 later.last,
    fun d alive => known.2 d (later.definition coupon.id d known.1 alive)⟩

/-- A coupon that was given out is known. -/
theorem of_getByCode (wellFormed : l.WellFormed) {code : String}
    (found : l.getByCode code = .ok coupon) : Known l coupon := by
  obtain ⟨stored, -⟩ := wellFormed.stored_of_getByCode found
  have alive : l.definition? coupon.id = some coupon.definition := by
    rw [Ledger.definition?, stored]
    rfl
  refine ⟨(wellFormed.issued _ _ alive).2, fun d alive' => ?_⟩
  rw [alive] at alive'
  cases alive'
  rfl

end Known

/-- A coupon of which a reply was told is known after it. -/
theorem known_after {l : Ledger} (wellFormed : l.WellFormed) {known : List Coupon}
    (all : ∀ coupon ∈ known, Known l coupon) (c : StoreCall) :
    ∀ coupon ∈ (Reply.given? ⟨c, (Ledger.answer c l).1⟩).toList ++ known,
      Known (Ledger.answer c l).2 coupon := by
  intro coupon told
  refine Known.later ?_ (Ledger.Later.answer l c)
  rcases List.mem_append.1 told with new | old
  · have given := Option.mem_toList.1 new
    cases c with
    | getByCode code =>
      cases found : l.getByCode code with
      | ok coupon' =>
        rw [Ledger.answer, found] at given
        cases given
        exact Known.of_getByCode wellFormed found
      | error e =>
        rw [Ledger.answer, found] at given
        cases given
    | _ => cases given
  · exact all coupon old

/-- **Stores that mirror each other reply the same to all calls**, if every coupon that is redeemed
is known or was given by one of the two before. -/
theorem replies_of_mirrors {s : Shelf} {l : Ledger} (m : Mirrors s l) {known : List Coupon}
    (all : ∀ coupon ∈ known, Known l coupon) (calls : List StoreCall)
    (issued : Issued known (replies Ledger.answer calls l) ∨
      Issued known (replies answerOn calls (.of s.database))) :
    replies answerOn calls (.of s.database) = replies Ledger.answer calls l := by
  induction calls generalizing s l known with
  | nil => rfl
  | cons c rest ih =>
    have informed : Informed l c := by
      cases c with
      | redeem coupon userId productId time =>
        refine all coupon ?_
        rcases issued with issued | issued
        · exact issued.1 coupon rfl
        · exact issued.1 coupon rfl
      | _ => trivial
    obtain ⟨after, gives, m'⟩ := agree m c informed
    have ran : answerOn c (.of s.database) = ((Ledger.answer c l).1, .of after.database) := gives
    simp only [replies, ran] at issued ⊢
    rw [ih m' (known_after m.wellFormed all c)]
    exact issued.imp And.right And.right

/-- **The ledger and the store on a server give the same answers to all calls**, from the empty
stores on, if every coupon that is redeemed was given by an earlier look-up. -/
theorem replies_eq (calls : List StoreCall)
    (issued : Issued [] (replies Ledger.answer calls .empty) ∨
      Issued [] (replies answerOn calls (.of .empty))) :
    replies answerOn calls (.of .empty) = replies Ledger.answer calls .empty :=
  replies_of_mirrors .empty (fun _ none => by cases none) calls issued

/-- A coupon of one use that is redeemed, redeemed again, and redeemed after it was deleted. -/
def staleCalls : List StoreCall :=
  let once : Coupon := Ledger.single.stored ⟨1⟩
  [.createCoupon Ledger.single, .getByCode once.code, .redeem once ⟨5⟩ none ⟨3, 0⟩,
    .redeem once ⟨5⟩ none ⟨4, 0⟩, .deleteCoupon once.id, .redeem once ⟨5⟩ none ⟨5, 0⟩,
    .listUsedByUser ⟨5⟩]

theorem replies_eq_stale :
    Issued [] (replies Ledger.answer staleCalls .empty) ∧
      replies answerOn staleCalls (.of .empty) = replies Ledger.answer staleCalls .empty := by
  have issued : Issued [] (replies Ledger.answer staleCalls .empty) := by decide
  exact ⟨issued, replies_eq staleCalls (.inl issued)⟩

end Sql

end Couponry
