import Couponry.Proofs.Coupon.Valid
import Couponry.Proofs.Ledger.Counter
import Couponry.Proofs.Sql.Lookups
import Couponry.Proofs.Sql.Writes

/-!
# Coupons as rows and back

What is written of a coupon and what is read of a row, each against the other. A row is given by what
stands in its columns, `CouponCells`, and need not have been written by anybody: `readCoupon_eq` says what
is made of it, and `Foreign` which rows are refused. `stored_form` puts both directions together with the
tests that a new coupon has to pass.
-/

namespace Couponry

open Couponry.Text

/-! ## Texts and numbers that are written -/

theorem DiscountKind.ofName?_eq_some_iff {text : String} {kind : DiscountKind} :
    ofName? text = some kind ↔ kind.name = text := by
  constructor
  · intro named
    unfold ofName? at named
    split at named <;> cases named <;> rfl
  · rintro rfl
    cases kind <;> rfl

theorem ScopeKind.ofName?_eq_some_iff {text : String} {scope : ScopeKind} :
    ofName? text = some scope ↔ scope.name = text := by
  constructor
  · intro named
    unfold ofName? at named
    split at named <;> cases named <;> rfl
  · rintro rfl
    cases scope <;> rfl

/-- A kind and a number make the rule of that kind and number, if it is in range. -/
theorem DiscountRule.ofParts_eq_ok {kind : DiscountKind} {value : Int} {rule : DiscountRule} :
    ofParts kind value = .ok rule ↔ rule.kind = kind ∧ rule.value = value ∧ rule.InRange := by
  constructor
  · intro made
    unfold ofParts at made
    cases kind with
    | percent =>
      dsimp only at made
      split at made <;> cases made
      next within =>
        refine ⟨rfl, Int.toNat_of_nonneg within.1, ?_⟩
        show value.toNat ≤ 100
        omega
    | value =>
      dsimp only at made
      split at made <;> cases made
      next positive => exact ⟨rfl, rfl, positive⟩
  · rintro ⟨rfl, rfl, range⟩
    exact ofParts_eq_ok_iff.2 ⟨range, rfl⟩

namespace Sql

open Coupons

/-- The rule that a text and a number tell of. -/
def ruleOf (text : String) (value : Int) : Except StoreError DiscountRule :=
  match DiscountKind.ofName? text with
  | none => .error (.corrupt (DiscountKind.unknownText text))
  | some kind => (DiscountRule.ofParts kind value).mapError fun fault => .corrupt fault.message

/-- The scope that a text tells of. -/
def scopeOf (text : String) : Except StoreError ScopeKind :=
  match ScopeKind.ofName? text with
  | none => .error (.corrupt (ScopeKind.unknownText text))
  | some scope => .ok scope

theorem ruleOf_eq_ok_iff {text : String} {value : Int} {rule : DiscountRule} :
    ruleOf text value = .ok rule ↔ rule.kind.name = text ∧ rule.value = value ∧ rule.InRange := by
  rw [← DiscountKind.ofName?_eq_some_iff]
  unfold ruleOf
  cases DiscountKind.ofName? text with
  | none => simp
  | some kind =>
    simp only [Option.some.injEq, mapError_eq_ok_iff, DiscountRule.ofParts_eq_ok]
    rw [eq_comm]

theorem scopeOf_eq_ok_iff {text : String} {scope : ScopeKind} :
    scopeOf text = .ok scope ↔ scope.name = text := by
  rw [← ScopeKind.ofName?_eq_some_iff]
  unfold scopeOf
  cases ScopeKind.ofName? text <;> simp

theorem corrupt_of_ruleOf {text : String} {value : Int} {e : StoreError}
    (failed : ruleOf text value = .error e) : ∃ message, e = .corrupt message := by
  unfold ruleOf at failed
  split at failed
  · cases failed
    exact ⟨_, rfl⟩
  · next kind _ =>
    cases parts : DiscountRule.ofParts kind value with
    | error fault =>
      rw [parts] at failed
      cases failed
      exact ⟨_, rfl⟩
    | ok rule =>
      rw [parts] at failed
      cases failed

theorem corrupt_of_scopeOf {text : String} {e : StoreError} (failed : scopeOf text = .error e) :
    ∃ message, e = .corrupt message := by
  unfold scopeOf at failed
  split at failed
  · cases failed
    exact ⟨_, rfl⟩
  · cases failed

/-! ## Reading -/

theorem readRule_eq {row : Row} {text : String} {value : Int}
    (kind : column String row "discount_type" = .ok text)
    (number : column Int row "discount_value" = .ok value) : readRule row = ruleOf text value := by
  rw [readRule, readKind, kind, ok_bind, number, ruleOf]
  cases DiscountKind.ofName? text <;> rfl

theorem readScope_eq {row : Row} {text : String} (name : column String row "scope" = .ok text) :
    readScope row = scopeOf text := by
  rw [readScope, name, ok_bind, scopeOf]
  cases ScopeKind.ofName? text <;> rfl

/-- What stands in the columns of a coupon, whoever wrote it. -/
structure CouponCells where
  id : CouponId
  code : String
  validFrom : Instant
  validTo : Instant
  discountType : String
  discountValue : Int
  scope : String
  used : Int
  total : Option Int
  description : Option String
  imageUrl : Option String
  createdBy : UserId
  createdAt : Instant
  updatedAt : Option Instant
  deriving DecidableEq, Repr

namespace CouponCells

/-- The columns of the row can be read, and this stands in them. -/
structure In (cells : CouponCells) (row : Row) : Prop where
  id : column CouponId row "id" = .ok cells.id
  code : column String row "code" = .ok cells.code
  validFrom : column Instant row "valid_from" = .ok cells.validFrom
  validTo : column Instant row "valid_to" = .ok cells.validTo
  discountType : column String row "discount_type" = .ok cells.discountType
  discountValue : column Int row "discount_value" = .ok cells.discountValue
  scope : column String row "scope" = .ok cells.scope
  used : column Int row "used" = .ok cells.used
  total : column (Option Int) row "total" = .ok cells.total
  description : column (Option String) row "description" = .ok cells.description
  imageUrl : column (Option String) row "image_url" = .ok cells.imageUrl
  createdBy : column UserId row "created_by" = .ok cells.createdBy
  createdAt : column Instant row "created_at" = .ok cells.createdAt
  updatedAt : column (Option Instant) row "updated_at" = .ok cells.updatedAt

variable (cells : CouponCells)

/-- The row with just these columns. -/
def row : Row :=
  ⟨[("id", bind cells.id), ("code", bind cells.code), ("valid_from", bind cells.validFrom),
    ("valid_to", bind cells.validTo), ("discount_type", bind cells.discountType),
    ("discount_value", bind cells.discountValue), ("scope", bind cells.scope), ("used", bind cells.used),
    ("total", bind cells.total), ("description", bind cells.description), ("image_url", bind cells.imageUrl),
    ("created_by", bind cells.createdBy), ("created_at", bind cells.createdAt),
    ("updated_at", bind cells.updatedAt)]⟩

theorem in_row : cells.In cells.row := by
  constructor <;> exact column_bind rfl

/-- The coupon in the columns, given its rule and its scope. Only a limited one with a total has counters. -/
def coupon (rule : DiscountRule) (scope : ScopeKind) : Coupon where
  id := cells.id
  code := cells.code
  validFrom := cells.validFrom
  validTo := cells.validTo
  discount := rule
  scope := scope
  usage :=
    match scope, cells.total with
    | .limited, some total => some ⟨cells.used, total⟩
    | _, _ => none
  description := cells.description
  imageUrl := cells.imageUrl
  createdBy := cells.createdBy
  createdAt := cells.createdAt
  updatedAt := cells.updatedAt

/-- What stands in the columns was not written of any coupon: the text of the type or of the scope is none
that is written, or the value is out of the range of its type. -/
def Foreign : Prop :=
  (∀ kind : DiscountKind, kind.name ≠ cells.discountType) ∨ (∀ scope : ScopeKind, scope.name ≠ cells.scope) ∨
    (cells.discountType = DiscountKind.percent.name ∧ ¬ (0 ≤ cells.discountValue ∧ cells.discountValue ≤ 100)) ∨
    (cells.discountType = DiscountKind.value.name ∧ cells.discountValue < 0)

variable {cells}

/-- What is not foreign tells of a rule in range and of a scope. -/
theorem foreign_iff : cells.Foreign ↔ ∀ (rule : DiscountRule) (scope : ScopeKind),
    rule.kind.name = cells.discountType → rule.value = cells.discountValue → rule.InRange →
      scope.name ≠ cells.scope := by
  constructor
  · intro foreign rule scope type value range named
    rcases foreign with none | none | ⟨type', out⟩ | ⟨type', out⟩
    · exact none rule.kind type
    · exact none scope named
    · rw [← type] at type'
      rw [← value] at out
      cases rule with
      | percent p =>
        have bound : p ≤ 100 := range
        simp only [DiscountRule.value] at out
        omega
      | fixedValue amount => exact absurd (show "VALUE" = "PERCENT" from type') (by decide)
    · rw [← type] at type'
      rw [← value] at out
      cases rule with
      | percent p => exact absurd (show "PERCENT" = "VALUE" from type') (by decide)
      | fixedValue amount => exact absurd range (Int.not_le.2 out)
  · refine fun none => Classical.byContradiction fun familiar => ?_
    simp only [Foreign, not_or, Classical.not_forall, Classical.not_not, not_and, Int.not_lt] at familiar
    obtain ⟨⟨kind, type⟩, ⟨scope, named⟩, percent, value⟩ := familiar
    cases kind with
    | percent =>
      obtain ⟨low, high⟩ := percent type.symm
      exact none (.percent cells.discountValue.toNat) scope type (Int.toNat_of_nonneg low)
        (show _ ≤ 100 by omega) named
    | value => exact none (.fixedValue ⟨cells.discountValue⟩) scope type rfl (value type.symm) named

variable {row : Row}

/-- **What is made of a row.** -/
theorem readCoupon_eq (h : cells.In row) : readCoupon row = do
    let rule ← ruleOf cells.discountType cells.discountValue
    let scope ← scopeOf cells.scope
    return cells.coupon rule scope := by
  have counter (scope : ScopeKind) (rule : DiscountRule) :
      readCounter row scope cells.total = .ok (cells.coupon rule scope).usage := by
    unfold readCounter coupon
    cases scope with
    | limited =>
      cases cells.total with
      | none => rfl
      | some total =>
        show (column Int row "used" >>= fun used => pure (some (Usage.mk used total))) = _
        rw [h.used]
        rfl
    | user | product => rfl
  rw [readCoupon, readRule_eq h.discountType h.discountValue, readScope_eq h.scope, h.id, h.code, h.validFrom,
    h.validTo, h.total, h.description, h.imageUrl, h.createdBy, h.createdAt, h.updatedAt]
  refine congrArg (_ >>= ·) (funext fun rule => congrArg (_ >>= ·) (funext fun scope => ?_))
  show (readCounter row scope cells.total >>= fun usage => _) = _
  rw [counter scope rule]
  rfl

/-- The cases of a row that can be read: it is corrupt, or tells of a rule and of a scope. -/
theorem readCoupon_cases (h : cells.In row) :
    (∃ message, readCoupon row = .error (.corrupt message)) ∨
      ∃ rule scope, ruleOf cells.discountType cells.discountValue = .ok rule ∧
        scopeOf cells.scope = .ok scope ∧ readCoupon row = .ok (cells.coupon rule scope) := by
  rw [readCoupon_eq h]
  cases made : ruleOf cells.discountType cells.discountValue with
  | error e =>
    obtain ⟨message, rfl⟩ := corrupt_of_ruleOf made
    exact .inl ⟨message, rfl⟩
  | ok rule =>
    cases named : scopeOf cells.scope with
    | error e =>
      obtain ⟨message, rfl⟩ := corrupt_of_scopeOf named
      exact .inl ⟨message, rfl⟩
    | ok scope => exact .inr ⟨rule, scope, rfl, rfl, rfl⟩

/-- A coupon is read where the columns tell of its rule and of its scope. -/
theorem readCoupon_eq_ok_iff (h : cells.In row) {c : Coupon} : readCoupon row = .ok c ↔
    c = cells.coupon c.discount c.scope ∧ c.discount.kind.name = cells.discountType ∧
      c.discount.value = cells.discountValue ∧ c.discount.InRange ∧ c.scope.name = cells.scope := by
  constructor
  · intro read
    rcases readCoupon_cases h with ⟨message, refused⟩ | ⟨rule, scope, made, named, found⟩
    · rw [refused] at read
      cases read
    · rw [found] at read
      cases read
      obtain ⟨type, value, range⟩ := ruleOf_eq_ok_iff.1 made
      exact ⟨rfl, type, value, range, scopeOf_eq_ok_iff.1 named⟩
  · rintro ⟨same, type, value, range, named⟩
    rw [readCoupon_eq h, ruleOf_eq_ok_iff.2 ⟨type, value, range⟩, scopeOf_eq_ok_iff.2 named, same]
    rfl

/-- A row that can be read fails as a corrupt one only. -/
theorem corrupt_of_readCoupon (h : cells.In row) {e : StoreError} (failed : readCoupon row = .error e) :
    ∃ message, e = .corrupt message := by
  rcases readCoupon_cases h with ⟨message, refused⟩ | ⟨rule, scope, -, -, found⟩
  · rw [refused] at failed
    cases failed
    exact ⟨message, rfl⟩
  · rw [found] at failed
    cases failed

/-- A row is refused just when it was not written of any coupon. -/
theorem refused_iff (h : cells.In row) :
    (∃ message, readCoupon row = .error (.corrupt message)) ↔ cells.Foreign := by
  rw [foreign_iff]
  constructor
  · rintro ⟨message, refused⟩ rule scope type value range named
    have read := (readCoupon_eq_ok_iff h (c := cells.coupon rule scope)).2 ⟨rfl, type, value, range, named⟩
    rw [refused] at read
    cases read
  · intro none
    refine (readCoupon_cases h).resolve_right ?_
    rintro ⟨rule, scope, made, named, -⟩
    obtain ⟨type, value, range⟩ := ruleOf_eq_ok_iff.1 made
    exact none rule scope type value range (scopeOf_eq_ok_iff.1 named)

end CouponCells

/-! ## Writing -/

/-- The columns of a rule. -/
def ruleRow (rule : DiscountRule) : Row :=
  ⟨[("discount_type", bind rule.kind.name), ("discount_value", bind rule.value)]⟩

/-- A rule reads back as itself just when it is in range. -/
theorem readRule_ruleRow {rule : DiscountRule} : readRule (ruleRow rule) = .ok rule ↔ rule.InRange := by
  rw [readRule_eq (column_bind rfl) (column_bind rfl), ruleOf_eq_ok_iff]
  simp

/-- The row that an insert makes among the coupons, after the one of number `last`. -/
def writtenRow (command : Command) (last : Int) : Row :=
  match command.statement with
  | .insert _ cells _ => Relation.newRow ⟨[], last⟩ .coupons cells command.params
  | _ => ⟨[]⟩

theorem writtenRow_insertCoupon (c : NewCoupon) (last : Int) :
    writtenRow (insertCoupon c) last = couponRow (c.stored ⟨last + 1⟩) := by
  unfold writtenRow insertCoupon NewCoupon.stored
  cases c.scope <;> rfl

/-- What is written of a coupon is read as the coupon that is stored. -/
theorem readCoupon_writtenRow {c : NewCoupon} (range : c.discount.InRange) (last : Int) :
    readCoupon (writtenRow (insertCoupon c) last) = .ok (c.stored ⟨last + 1⟩) := by
  rw [writtenRow_insertCoupon]
  refine readCoupon_couponRow (DiscountRule.ofParts_eq_ok_iff.2 ⟨range, rfl⟩) fun u counted => ?_
  unfold NewCoupon.stored at counted ⊢
  cases scope : c.scope with
  | limited => rfl
  | perUser | perProduct =>
    rw [scope] at counted
    cases counted

/-! ## Both directions -/

/-- What is written of a new coupon is what is read, and what is read is what would be written. -/
structure StoredForm (c : NewCoupon) (cells : CouponCells) : Prop where
  /-- The tests on the coupon. Its rule has to read back as itself. -/
  accepted : c.fault? = none ↔ ¬OnlyWhiteSpace c.code ∧ c.validFrom < c.validTo ∧ 0 < c.total ∧
    readRule (ruleRow c.discount) = .ok c.discount
  /-- The row of an accepted coupon is read as the coupon under the id that was returned. -/
  written : c.fault? = none → ∀ last,
    ((writtenRow (insertCoupon c) last).project ["id"]).first = .ok (last + 1) ∧
      readCoupon (writtenRow (insertCoupon c) last) = .ok (c.coupon ⟨last + 1⟩)
  /-- This is what a ledger holds of it. -/
  held : ∀ l : Ledger, c.fault? = none → l.codes.get? c.code = none →
    ∃ l' coupon, l.createCoupon c = (.ok l.nextCouponId, l') ∧
      l'.coupons.get? l.nextCouponId = some coupon ∧
      readCoupon (writtenRow (insertCoupon c) l.lastCouponId) = .ok coupon
  /-- Anything of the right types may stand in a row. -/
  any : ∃ row, cells.In row
  /-- A row is corrupt just when it was not written of any coupon. -/
  corrupt : ∀ row, cells.In row →
    ((∃ message, readCoupon row = .error (.corrupt message)) ↔ cells.Foreign)
  /-- Nothing else is wrong with a row. -/
  failed : ∀ row e, cells.In row → readCoupon row = .error e → ∃ message, e = .corrupt message
  /-- What is read is what stands in the columns. -/
  read : ∀ row coupon, cells.In row → readCoupon row = .ok coupon →
    coupon = cells.coupon coupon.discount coupon.scope ∧ coupon.discount.kind.name = cells.discountType ∧
      coupon.discount.value = cells.discountValue ∧ coupon.discount.InRange ∧ coupon.scope.name = cells.scope
  /-- A coupon with the rule and the scope that were read is written with the texts and the value of the
  row. -/
  rewritten : ∀ row coupon, cells.In row → readCoupon row = .ok coupon → c.discount = coupon.discount →
    c.scope.withoutSubject = coupon.scope → ∀ last, ∀ name ∈ ["discount_type", "discount_value", "scope"],
      (writtenRow (insertCoupon c) last).value? name = row.value? name

/-- **The stored form of coupons and the coupons agree in both directions.** -/
theorem stored_form (c : NewCoupon) (cells : CouponCells) : StoredForm c cells where
  accepted := by
    rw [NewCoupon.sound_iff, readRule_ruleRow]
    exact ⟨fun h => ⟨h.code, h.window, h.total, h.discount⟩, fun h => ⟨h.1, h.2.1, h.2.2.2, h.2.2.1⟩⟩
  written sound last := by
    rw [← NewCoupon.stored_eq]
    refine ⟨?_, readCoupon_writtenRow (NewCoupon.valid_of_sound sound).discount last⟩
    rw [writtenRow_insertCoupon]
    rfl
  held l sound free := by
    refine ⟨l.addCoupon c, c.stored l.nextCouponId, ?_, ?_, ?_⟩
    · simp [Ledger.createCoupon, sound, Table.contains, free, Ledger.nextCouponId]
    · rw [Ledger.coupons_addCoupon, Table.get?_insert, if_pos rfl]
    · exact readCoupon_writtenRow (NewCoupon.valid_of_sound sound).discount l.lastCouponId
  any := ⟨cells.row, cells.in_row⟩
  corrupt _ h := CouponCells.refused_iff h
  failed _ _ h := CouponCells.corrupt_of_readCoupon h
  read _ _ h read := (CouponCells.readCoupon_eq_ok_iff h).1 read
  rewritten row coupon h read rule scope last name named := by
    obtain ⟨-, type, value, -, text⟩ := (CouponCells.readCoupon_eq_ok_iff h).1 read
    rw [← rule] at type value
    rw [← scope] at text
    rw [writtenRow_insertCoupon]
    simp only [List.mem_cons, List.not_mem_nil, or_false] at named
    rcases named with rfl | rfl | rfl
    · rw [value?_of_column eq_bind_of_text h.discountType, ← type]
      rfl
    · rw [value?_of_column eq_bind_of_int h.discountValue, ← value]
      rfl
    · rw [value?_of_column eq_bind_of_text h.scope, ← text]
      rfl

end Sql

end Couponry
