import Couponry.Proofs.Program.Steps
import Couponry.Proofs.Sql.Server
import Couponry.Sql.Coupons

/-!
# What statements write

The meaning of the statements that write: into which table, which values into which columns, and in which
rows. What is stored of a coupon, of a grant and of a use is given here by the columns of the tables and by
what stands in them, with no regard to how a statement is put together; each statement is then shown to
write just this.
-/

namespace Couponry.Sql

/-! ## Meanings -/

namespace Command

/-- The command adds a row to a table, gives these values to its columns, and asks for some of them back. -/
def Adds (command : Command) (table : String) (cells : List (String × Value)) (asked : List String) : Prop :=
  ∃ terms, command.statement = .insert table terms asked ∧
    (terms.map fun t => (t.1, t.2.value command.params ⟨[]⟩)) = cells

/-- The command raises the counter in a row by one, and notes the time: in the row of a table that has these
values in the columns of its key, if what is used is less than the total. -/
def Raises (command : Command) (table : String) (key : List (String × Value)) (time : Instant) : Prop :=
  ∃ changes conditions, command.statement = .update table changes conditions ∧
    (∀ row, (changes.map fun c => (c.1, c.2.value command.params row)) =
      [("used", (row.at "used").next), ("updated_at", .time time)]) ∧
    ∀ row : Row, row.meets conditions command.params = true ↔
      (∀ k ∈ key, row.at k.1 = k.2) ∧ (row.at "used").before (row.at "total") = true

end Command

namespace Coupons

/-- What stands in the columns of a rule. -/
def ruleCells : DiscountRule → List (String × Value)
  | .percent p => [("discount_type", .text "PERCENT"), ("discount_value", .int8 p)]
  | .fixedValue amount => [("discount_type", .text "VALUE"), ("discount_value", .int8 amount.cents)]

/-- What stands in the columns of a scope. Only a limited coupon is counted in its own row. -/
def scopeCells (total : Int) : CouponScope → List (String × Value)
  | .limited => [("scope", .text "LIMITED"), ("used", .int8 0), ("total", .int8 total)]
  | .perUser _ => [("scope", .text "USER"), ("used", .int8 0), ("total", .null)]
  | .perProduct _ => [("scope", .text "PRODUCT"), ("used", .int8 0), ("total", .null)]

/-- What stands in the columns of a coupon. -/
def couponCells (c : NewCoupon) : List (String × Value) :=
  [("code", .text c.code), ("valid_from", .time c.validFrom), ("valid_to", .time c.validTo)] ++
    ruleCells c.discount ++ scopeCells c.total c.scope ++
    [("description", c.description.elim .null .text), ("image_url", c.imageUrl.elim .null .text),
      ("created_by", .int8 c.createdBy.value), ("created_at", .time c.createdAt)]

/-- What stands in the columns of a grant, whose subject is in a column of its own. -/
def grantCells (id : CouponId) (column : String) (subject : Int) (c : NewCoupon) : List (String × Value) :=
  [("coupon_id", .int8 id.value), (column, .int8 subject), ("used", .int8 0), ("total", .int8 c.total),
    ("created_by", .int8 c.createdBy.value), ("created_at", .time c.createdAt)]

/-- The value of a product that may be missing. -/
def productCell (productId : Option ProductId) : Value :=
  productId.elim .null fun id => .int8 id.value

/-- The commands add the grants of a coupon: one for its subject, in the table of such subjects, and none
if the coupon is limited as a whole. -/
def AddsGrants (id : CouponId) (c : NewCoupon) (commands : List Command) : Prop :=
  match c.scope with
  | .limited => commands = []
  | .perUser userId => ∃ command, commands = [command] ∧
      command.Adds "user_coupons" (grantCells id "user_id" userId.value c) []
  | .perProduct productId => ∃ command, commands = [command] ∧
      command.Adds "product_coupons" (grantCells id "product_id" productId.value c) []

/-- The command takes a use from the counter of the coupon: its own, if it is limited, or that of its grant
for the user or for the product. -/
def TakesUse (coupon : Coupon) (userId : UserId) (productId : Option ProductId) (time : Instant)
    (command : Command) : Prop :=
  match coupon.scope, productId with
  | .limited, _ => command.Raises "coupons" [("id", .int8 coupon.id.value)] time
  | .user, _ => command.Raises "user_coupons"
      [("coupon_id", .int8 coupon.id.value), ("user_id", .int8 userId.value)] time
  | .product, some productId => command.Raises "product_coupons"
      [("coupon_id", .int8 coupon.id.value), ("product_id", .int8 productId.value)] time
  | .product, none => False

/-- The command adds a use to the log, and asks for all of its record. -/
def AddsUse (id : CouponId) (userId : UserId) (productId : Option ProductId) (time : Instant)
    (command : Command) : Prop :=
  command.Adds "used_coupons"
    [("coupon_id", .int8 id.value), ("user_id", .int8 userId.value), ("product_id", productCell productId),
      ("created_at", .time time)]
    ["id", "coupon_id", "user_id", "product_id", "created_at"]

/-- The record stands in the row. -/
structure RecordIn (row : Row) (r : RedemptionRecord) : Prop where
  id : ("id", .int8 r.id) ∈ row.cells
  couponId : ("coupon_id", .int8 r.couponId.value) ∈ row.cells
  userId : ("user_id", .int8 r.userId.value) ∈ row.cells
  productId : ("product_id", productCell r.productId) ∈ row.cells
  redeemedAt : ("created_at", .time r.redeemedAt) ∈ row.cells

/-! ## The statements -/

theorem insertCoupon_adds (c : NewCoupon) : (insertCoupon c).Adds "coupons" (couponCells c) ["id"] := by
  refine ⟨_, rfl, ?_⟩
  obtain ⟨code, validFrom, validTo, discount, scope, total, description, imageUrl, createdBy, createdAt⟩ := c
  cases discount <;> cases scope <;> cases description <;> cases imageUrl <;> rfl

theorem insertGrant?_adds (id : CouponId) (c : NewCoupon) :
    AddsGrants id c (insertGrant? id.value c).toList := by
  unfold AddsGrants insertGrant?
  cases c.scope with
  | limited => rfl
  | perUser userId => exact ⟨_, rfl, _, rfl, rfl⟩
  | perProduct productId => exact ⟨_, rfl, _, rfl, rfl⟩

section Counters

variable {table : String} {key : List (String × Value)} (given : ∀ k ∈ key, k.2 ≠ .null) (time : Instant)
include given

/-- The first conditions of an update say that a row has the key. -/
theorem meets_conditions (row : Row) : row.meets (CounterRow.conditions ⟨table, key⟩)
    (CounterRow.raise ⟨table, key⟩ time).params = true ↔ ∀ k ∈ key, row.at k.1 = k.2 := by
  have param (i : Nat) (inside : i < key.length) :
      (key.map Prod.snd ++ [bind time])[i]?.getD .null = key[i].2 := by
    rw [List.getElem?_append_left (by simpa using inside)]
    simp [inside]
  simp only [Row.meets, CounterRow.conditions, CounterRow.raise, List.all_eq_true, List.mem_mapIdx]
  constructor
  · intro holds k member
    obtain ⟨i, inside, rfl⟩ := List.getElem_of_mem member
    have here := holds _ ⟨i, inside, rfl⟩
    simp only [Condition.columnIs, Condition.holds, Term.value, Nat.add_sub_cancel,
      List.getD_eq_getElem?_getD, param i inside] at here
    exact of_decide_eq_true (Bool.and_eq_true_iff.1 here).2
  · rintro same _ ⟨i, inside, rfl⟩
    have here := same key[i] (List.getElem_mem inside)
    have value := given key[i] (List.getElem_mem inside)
    simp only [Condition.columnIs, Condition.holds, Term.value, Nat.add_sub_cancel,
      List.getD_eq_getElem?_getD, param i inside, here]
    exact Bool.and_eq_true_iff.2 ⟨decide_eq_true value, decide_eq_true trivial⟩

/-- A counter is raised in the row of its key. -/
theorem raise_raises : (CounterRow.raise ⟨table, key⟩ time).Raises table key time := by
  refine ⟨_, _, rfl, fun row => ?_, fun row => ?_⟩
  · have noted : Term.value (key.map Prod.snd ++ [bind time]) row (.param (key.length + 1)) = .time time := by
      simp [Term.value]
      rfl
    exact congrArg (fun v => [("used", (row.at "used").next), ("updated_at", v)]) noted
  · rw [Row.meets, List.all_append, Bool.and_eq_true]
    exact and_congr (meets_conditions given time row) (by simp [Condition.holds, Term.value])

end Counters

theorem raise_takesUse {coupon : Coupon} {userId : UserId} {productId : Option ProductId}
    {counter : CounterRow} (named : CounterRow.of? coupon.scope coupon.id userId productId = some counter)
    (time : Instant) : TakesUse coupon userId productId time (counter.raise time) := by
  unfold TakesUse
  unfold CounterRow.of? at named
  cases scope : coupon.scope with
  | limited =>
    rw [scope] at named
    cases named
    exact raise_raises (by simp [bind]) time
  | user =>
    rw [scope] at named
    cases named
    exact raise_raises (by simp [bind]) time
  | product =>
    rw [scope] at named
    cases productId with
    | none => cases named
    | some productId =>
      cases named
      exact raise_raises (by simp [bind]) time

theorem insertUse_adds (id : CouponId) (userId : UserId) (productId : Option ProductId) (time : Instant) :
    AddsUse id userId productId time (insertUse id userId productId time) := by
  refine ⟨_, rfl, ?_⟩
  cases productId <;> rfl

/-! ## What is read of a row -/

section Columns

variable {row : Row} {name : String}

theorem mem_of_value? {v : Value} (stands : row.value? name = some v) : (name, v) ∈ row.cells := by
  obtain ⟨before, after, split, -⟩ := List.lookup_eq_some_iff.1 stands
  rw [← List.mem_reverse, split]
  exact List.mem_append_right _ List.mem_cons_self

theorem eq_bind_of_int {v : Value} {n : Int} (read : Column.ofValue? v = some n) : v = bind n := by
  cases v <;> cases read
  rfl

theorem eq_bind_of_text {v : Value} {text : String} (read : Column.ofValue? v = some text) :
    v = bind text := by
  cases v <;> cases read
  rfl

theorem eq_bind_of_time {v : Value} {t : Instant} (read : Column.ofValue? v = some t) : v = bind t := by
  cases v <;> cases read
  rfl

theorem eq_bind_of_id {kind : IdKind} {v : Value} {id : Id kind} (read : Column.ofValue? v = some id) :
    v = bind id := by
  cases v <;> cases read
  rfl

theorem eq_bind_of_id? {kind : IdKind} {v : Value} {id : Option (Id kind)}
    (read : Column.ofValue? v = some id) : v = bind id := by
  cases v <;> cases read <;> rfl

/-- Where only the value itself is read from a column, it is what stands there. -/
theorem value?_of_column {α : Type} [Column α] {a : α} (only : ∀ {v}, Column.ofValue? v = some a → v = bind a)
    (read : column α row name = .ok a) : row.value? name = some (bind a) := by
  have got : row.get name = .ok a := mapError_eq_ok_iff.1 read
  unfold Row.get at got
  split at got
  · next b found =>
    cases got
    obtain ⟨v, stands, value⟩ := Option.bind_eq_some_iff.1 found
    rw [stands, only value]
  · cases got

theorem mem_of_column {α : Type} [Column α] {a : α} (only : ∀ {v}, Column.ofValue? v = some a → v = bind a)
    (read : column α row name = .ok a) : (name, bind a) ∈ row.cells :=
  mem_of_value? (value?_of_column only read)

/-- The number that is read first stands first. -/
theorem cells_of_first {n : Int} (read : row.first = .ok n) : ∃ name, row.cells.head? = some (name, .int8 n) := by
  unfold Row.first at read
  split at read
  · next b found =>
    cases read
    obtain ⟨v, stands, value⟩ := Option.bind_eq_some_iff.1 found
    obtain ⟨cell, first, rfl⟩ := Option.map_eq_some_iff.1 stands
    exact ⟨cell.1, first.trans (congrArg (fun v => some (cell.1, v)) (eq_bind_of_int value))⟩
  · cases read

/-- A record that is read stands in the row. -/
theorem recordIn_of_readUse {r : RedemptionRecord} (read : readUse row = .ok r) : RecordIn row r := by
  obtain ⟨id, number, read⟩ := bind_eq_ok read
  obtain ⟨couponId, coupon, read⟩ := bind_eq_ok read
  obtain ⟨userId, user, read⟩ := bind_eq_ok read
  obtain ⟨productId, product, read⟩ := bind_eq_ok read
  obtain ⟨redeemedAt, time, read⟩ := bind_eq_ok read
  cases read
  have cell : productCell productId = bind productId := by cases productId <;> rfl
  exact {
    id := mem_of_column eq_bind_of_int number
    couponId := mem_of_column eq_bind_of_id coupon
    userId := mem_of_column eq_bind_of_id user
    productId := cell ▸ mem_of_column eq_bind_of_id? product
    redeemedAt := mem_of_column eq_bind_of_time time }

end Columns

end Coupons

end Couponry.Sql
