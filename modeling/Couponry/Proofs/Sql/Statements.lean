import Couponry.Proofs.Sql.Changes

/-!
# What statements write

Each statement of the store of coupons that writes, executed on the tables of a shelf, makes the
tables of another one. The equations speak of shelves alone; no later proof looks into a row.
-/

namespace Couponry.Sql

open Ledger (CounterKey)
open Coupons

/-! ## Conditions -/

/-- A column holds the value of a parameter where the two are the same. -/
theorem holds_columnIs {α : Type} [Scalar α] [DecidableEq α] {row : Row} {params : List Value}
    {column : String} {n : Nat} {a b : α} (stands : row.at column = bind a)
    (given : params.getD (n - 1) .null = bind b) :
    (Condition.columnIs column n).holds params row = decide (a = b) := by
  simp only [Condition.columnIs, Condition.holds, Term.value, stands, given, bind_ne_null, ne_eq,
    not_false_eq_true, decide_true, Bool.true_and, bind_inj]

theorem meets_id (id : CouponId) (rest : List Value) (c : Coupon) :
    (couponRow c).meets [.columnIs "id" 1] (bind id :: rest) = decide (c.id = id) := by
  have same :
      (Condition.columnIs "id" 1).holds (bind id :: rest) (couponRow c) = decide (c.id = id) :=
    holds_columnIs rfl rfl
  simp [Row.meets, same]

theorem meets_code (code : String) (c : Coupon) :
    (couponRow c).meets [.columnIs "code" 1] [bind code] = decide (c.code = code) := by
  have same :
      (Condition.columnIs "code" 1).holds [bind code] (couponRow c) = decide (c.code = code) :=
    holds_columnIs rfl rfl
  simp [Row.meets, same]

theorem meets_key (h : Holder) (id : CouponId) (subject : Int) (rest : List Value) (g : Grant) :
    (grantRow h g).meets [.columnIs "coupon_id" 1, .columnIs h.subject 2]
      (bind id :: bind subject :: rest) = decide (g.key = (id, subject)) := by
  have coupon : (Condition.columnIs "coupon_id" 1).holds (bind id :: bind subject :: rest)
      (grantRow h g) = decide (g.couponId = id) :=
    holds_columnIs (by cases h <;> rfl) rfl
  have holder : (Condition.columnIs h.subject 2).holds (bind id :: bind subject :: rest)
      (grantRow h g) = decide (g.subject = subject) :=
    holds_columnIs (by cases h <;> rfl) rfl
  simp [Row.meets, coupon, holder, Grant.key]

/-- A use is left of the counter in a row of a coupon. -/
theorem less_couponRow (params : List Value) (c : Coupon) :
    (Condition.less (.column "used") (.column "total")).holds params (couponRow c) =
      c.usage.any hasLeft := by
  show ((couponRow c).at "used").before ((couponRow c).at "total") = _
  cases counted : c.usage with
  | none =>
    have total : (couponRow c).at "total" = .null := by
      show bind (c.usage.map Usage.total) = _
      rw [counted]
      rfl
    rw [total]
    rfl
  | some u =>
    have used : (couponRow c).at "used" = .int8 u.used := by
      show bind (c.usage.elim 0 Usage.used) = _
      rw [counted]
      rfl
    have total : (couponRow c).at "total" = .int8 u.total := by
      show bind (c.usage.map Usage.total) = _
      rw [counted]
      rfl
    rw [used, total]
    rfl

theorem less_grantRow (h : Holder) (params : List Value) (g : Grant) :
    (Condition.less (.column "used") (.column "total")).holds params (grantRow h g) =
      hasLeft g.usage := by
  cases h <;> rfl

/-! ## Counters -/

/-- The row that counts the uses of a coupon. -/
def counterRow : CounterKey → CounterRow
  | .coupon id => ⟨"coupons", [("id", bind id)]⟩
  | .user id userId => ⟨"user_coupons", [("coupon_id", bind id), ("user_id", bind userId)]⟩
  | .product id productId =>
    ⟨"product_coupons", [("coupon_id", bind id), ("product_id", bind productId)]⟩

section Update

variable {α κ : Type} [DecidableEq κ] {key : α → κ} {test : α → Bool} {row : α → Row}
  {hit : Row → Bool} {l : List α} {k : κ} (hits : ∀ a, hit (row a) = (decide (key a = k) && test a))
include hits

/-- An update of the entry with a key, if it passes a test. -/
theorem map_changeAt {change : α → α} {changed : Row → Row}
    (changes : ∀ a, test a = true → changed (row a) = row (change a)) :
    (l.map row).map (fun r => if hit r then changed r else r) =
      (Keyed.changeAt key test change l k).map row := by
  rw [Keyed.changeAt, List.map_map, List.map_map]
  refine List.map_congr_left fun a _ => ?_
  simp only [Function.comp_apply, hits]
  split
  · next both => exact changes a (Bool.and_eq_true_iff.1 both).2
  · rfl

theorem countP_hits (distinct : (l.map key).Nodup) :
    (l.map row).countP hit = if (Keyed.lookup key l k).any test then 1 else 0 := by
  rw [List.countP_map, ← Keyed.countP_key distinct]
  exact List.countP_congr fun a _ => by simp [hits]

end Update

theorem change_couponRow {id : CouponId} {time : Instant} {c : Coupon}
    (left : c.usage.any hasLeft = true) :
    (couponRow c).change [("used", .next "used"), ("updated_at", .param 2)] [bind id, bind time] =
      couponRow (raised c time) := by
  cases c with
  | mk _ _ _ _ _ _ usage _ _ _ _ _ =>
    cases usage with
    | none => cases left
    | some u => rfl

theorem change_grantRow (h : Holder) {id : CouponId} {subject : Int} {time : Instant} (g : Grant) :
    (grantRow h g).change [("used", .next "used"), ("updated_at", .param 3)]
      [bind id, bind subject, bind time] = grantRow h (g.raised time) := by
  cases h <;> rfl

/-! ## Selections and deletions -/

/-- The rows that stand for the entries that pass a test. -/
theorem filter_rows {α : Type} {row : α → Row} {test : Row → Bool} {pass : α → Bool}
    (passes : ∀ a, test (row a) = pass a) (l : List α) :
    (l.map row).filter test = (l.filter pass).map row := by
  rw [List.filter_map]
  exact congrArg (fun pass => (l.filter pass).map row) (funext passes)

/-- A grant goes with the coupon that it is of. -/
theorem carries_grantRow (h : Holder) (g : Grant) (removed : List Coupon) :
    h.table.constraints.any (Constraint.carries .coupons (removed.map couponRow) (grantRow h g)) =
      removed.any fun c => decide (g.couponId = c.id) := by
  have owner : (grantRow h g).at "coupon_id" = bind g.couponId := by cases h <;> rfl
  have same (c : Coupon) : decide ((grantRow h g).at "coupon_id" = (couponRow c).at "id") =
      decide (g.couponId = c.id) := by
    rw [owner]
    exact decide_eq_decide.2 bind_inj
  have refers (name : String) : Constraint.carries .coupons (removed.map couponRow) (grantRow h g)
      (.references name "coupon_id" .coupons "id") =
      removed.any fun c => decide (g.couponId = c.id) := by
    simp only [Constraint.carries, decide_true, Bool.true_and, List.any_map]
    exact congrArg removed.any (funext same)
  rw [← refers "coupon_id"]
  cases h <;> exact Bool.or_false _

/-! ## Writing -/

namespace Shelf

variable (s : Shelf)

theorem perform_insertCoupon (c : NewCoupon) :
    s.database.perform (insertCoupon c).params (insertCoupon c).statement =
      .ok (⟨[⟨[("id", bind (s.lastCouponId + 1))]⟩], 1⟩, (s.addCoupon c).database) := by
  have row : (s.database.relation .coupons).newRow .coupons
      [("code", .param 1), ("valid_from", .param 2), ("valid_to", .param 3),
        ("discount_type", .param 4), ("discount_value", .param 5), ("scope", .param 6),
        ("used", .literal 0), ("total", .param 7), ("description", .param 8),
        ("image_url", .param 9), ("created_by", .param 10), ("created_at", .param 11)]
      (insertCoupon c).params = couponRow (c.stored ⟨s.lastCouponId + 1⟩) := by
    unfold insertCoupon NewCoupon.stored
    cases c.scope <;> rfl
  have added : (s.addCoupon c).database = s.database.set .coupons
      ((s.database.relation .coupons).add .coupons (couponRow (c.stored ⟨s.lastCouponId + 1⟩))) := by
    simp only [addCoupon, database, List.map_append]
    rfl
  rw [added, ← row]
  exact congrArg (fun row => Except.ok (Outcome.mk [row.project ["id"]] 1, _)) row

theorem database_setGrants (h : Holder) (gs : List Grant) :
    (s.setGrants h gs).database = s.database.set h.table ⟨gs.map (grantRow h), 0⟩ := by
  cases h <;> rfl

theorem perform_insertGrant (h : Holder) (id subject : Int) (c : NewCoupon) :
    s.database.perform (insertGrant h.table.text h.subject id c (bind subject)).params
        (insertGrant h.table.text h.subject id c (bind subject)).statement =
      .ok (⟨[], 1⟩, (s.addGrant h (.fresh id subject c)).database) := by
  rw [addGrant, database_setGrants, List.map_append]
  cases h <;> rfl

theorem perform_insertUse (id : CouponId) (userId : UserId) (productId : Option ProductId)
    (time : Instant) :
    s.database.perform (insertUse id userId productId time).params
        (insertUse id userId productId time).statement =
      .ok (⟨[useRow ⟨s.lastUseId + 1, id, userId, productId, time⟩], 1⟩,
        (s.addUse ⟨s.lastUseId + 1, id, userId, productId, time⟩).database) := by
  simp only [addUse, database, List.map_append]
  rfl

variable {s}

theorem perform_raiseCoupon (sound : s.Sound) (id : CouponId) (time : Instant) :
    s.database.perform ((counterRow (.coupon id)).raise time).params
        ((counterRow (.coupon id)).raise time).statement =
      .ok (⟨[], if (s.counter? (.coupon id)).any hasLeft then 1 else 0⟩,
        (s.raise (.coupon id) time).database) := by
  let hit (row : Row) : Bool :=
    row.meets [.columnIs "id" 1, .less (.column "used") (.column "total")] [bind id, bind time]
  let changed (row : Row) : Row :=
    row.change [("used", .next "used"), ("updated_at", .param 2)] [bind id, bind time]
  have hits (c : Coupon) : hit (couponRow c) = (decide (c.id = id) && c.usage.any hasLeft) := by
    rw [← meets_id id [bind time], ← less_couponRow [bind id, bind time]]
    simp [Row.meets, hit]
  have changes (c : Coupon) (left : c.usage.any hasLeft = true) :
      changed (couponRow c) = couponRow (raised c time) :=
    change_couponRow left
  have counted : (s.counter? (.coupon id)).any hasLeft =
      (s.coupon? id).any fun c => c.usage.any hasLeft := by
    rw [counter?]
    cases s.coupon? id <;> rfl
  show Except.ok (Outcome.mk [] ((s.coupons.map couponRow).countP hit), s.database.set .coupons
    ⟨(s.coupons.map couponRow).map fun row => if hit row then changed row else row,
      s.lastCouponId⟩) = _
  rw [countP_hits hits sound.ids, map_changeAt hits changes, counted]
  rfl

theorem perform_raiseGrant (sound : s.Sound) (h : Holder) (id : CouponId) (subject : Int)
    (time : Instant) :
    s.database.perform [bind id, bind subject, bind time]
        (.update h.table.text [("used", .next "used"), ("updated_at", .param 3)]
          [.columnIs "coupon_id" 1, .columnIs h.subject 2,
            .less (.column "used") (.column "total")]) =
      .ok (⟨[], if ((s.grant? h id subject).map Grant.usage).any hasLeft then 1 else 0⟩,
        (s.raiseGrant h id subject time).database) := by
  let hit (row : Row) : Bool :=
    row.meets
      [.columnIs "coupon_id" 1, .columnIs h.subject 2, .less (.column "used") (.column "total")]
      [bind id, bind subject, bind time]
  let changed (row : Row) : Row :=
    row.change [("used", .next "used"), ("updated_at", .param 3)] [bind id, bind subject, bind time]
  have hits (g : Grant) :
      hit (grantRow h g) = (decide (g.key = (id, subject)) && hasLeft g.usage) := by
    rw [← meets_key h id subject [bind time], ← less_grantRow h [bind id, bind subject, bind time]]
    simp [Row.meets, hit, Bool.and_assoc]
  have changes (g : Grant) (_ : hasLeft g.usage = true) :
      changed (grantRow h g) = grantRow h (g.raised time) :=
    change_grantRow h g
  have counted : ((s.grant? h id subject).map Grant.usage).any hasLeft =
      (s.grant? h id subject).any fun g => hasLeft g.usage := by
    cases s.grant? h id subject <;> rfl
  rw [raiseGrant, database_setGrants, ← map_changeAt hits changes, counted, grant?,
    ← countP_hits hits (sound.keys h)]
  cases h <;> rfl

/-- The update of a counter reports one row where a use is left, and else none. -/
theorem perform_raise (sound : s.Sound) (key : CounterKey) (time : Instant) :
    s.database.perform ((counterRow key).raise time).params
        ((counterRow key).raise time).statement =
      .ok (⟨[], if (s.counter? key).any hasLeft then 1 else 0⟩, (s.raise key time).database) := by
  cases key with
  | coupon id => exact perform_raiseCoupon sound id time
  | user id userId => exact perform_raiseGrant sound .user id userId.value time
  | product id productId => exact perform_raiseGrant sound .product id productId.value time

/-- A probe says whether there is a row for a counter. -/
theorem perform_probe (key : CounterKey) :
    s.database.perform (counterRow key).probe.params (counterRow key).probe.statement =
      .ok (⟨[⟨[("exists", .bool (s.hasRow key))]⟩], 1⟩, s.database) := by
  have coupons (id : CouponId) : (s.coupons.map couponRow).any (fun row =>
      row.meets [.columnIs "id" 1] [bind id]) = (s.coupon? id).isSome := by
    rw [List.any_map, coupon?, ← Keyed.any_key]
    exact congrArg s.coupons.any (funext fun c => meets_id id [] c)
  have grants (h : Holder) (id : CouponId) (subject : Int) :
      ((s.grants h).map (grantRow h)).any (fun row =>
        row.meets [.columnIs "coupon_id" 1, .columnIs h.subject 2] [bind id, bind subject]) =
        (s.grant? h id subject).isSome := by
    rw [List.any_map, grant?, ← Keyed.any_key]
    exact congrArg (s.grants h).any (funext fun g => meets_key h id subject [] g)
  cases key with
  | coupon id =>
    rw [hasRow, ← coupons]
    rfl
  | user id userId =>
    rw [hasRow, ← grants]
    rfl
  | product id productId =>
    rw [hasRow, ← grants]
    rfl

/-- With coupons go their grants, and nothing else. -/
theorem remove_coupons (sound : s.Sound) (id : CouponId) {hit : Row → Bool}
    (hits : ∀ c, hit (couponRow c) = decide (c.id = id)) :
    s.database.remove .coupons hit =
      { s with
        coupons := s.coupons.filter fun c => !decide (c.id = id)
        grants := fun h => (s.grants h).filter fun g =>
          !(s.coupon? id).toList.any fun c => decide (g.couponId = c.id) : Shelf }.database := by
  let gone : List Coupon := (s.coupon? id).toList
  let stays (t : TableName) (row : Row) : Bool :=
    !t.constraints.any (Constraint.carries .coupons (gone.map couponRow) row)
  have removed : (s.database.relation .coupons).rows.filter hit = gone.map couponRow := by
    rw [rows_coupons, filter_rows hits, Keyed.filter_key sound.ids]
    rfl
  have coupons : (s.coupons.map couponRow).filter (fun row => !hit row) =
      (s.coupons.filter fun c => !decide (c.id = id)).map couponRow :=
    filter_rows (fun c => congrArg not (hits c)) s.coupons
  have grants (h : Holder) : ((s.grants h).map (grantRow h)).filter (stays h.table) =
      ((s.grants h).filter fun g => !gone.any fun c => decide (g.couponId = c.id)).map (grantRow h) :=
    filter_rows (fun g => congrArg not (carries_grantRow h g gone)) (s.grants h)
  have uses : (s.uses.map useRow).filter (stays .usedCoupons) = s.uses.map useRow := by
    rw [List.filter_eq_self]
    intro row stored
    obtain ⟨r, -, rfl⟩ := List.mem_map.1 stored
    rfl
  rw [Database.remove, removed]
  show Database.mk ⟨(s.coupons.map couponRow).filter fun row => !hit row, s.lastCouponId⟩
    ⟨((s.grants .user).map (grantRow .user)).filter (stays Holder.user.table), 0⟩
    ⟨((s.grants .product).map (grantRow .product)).filter (stays Holder.product.table), 0⟩
    ⟨(s.uses.map useRow).filter (stays .usedCoupons), s.lastUseId⟩ = _
  rw [coupons, grants .user, grants .product, uses]
  rfl

/-- How many rows a deletion reports. -/
theorem countP_id (sound : s.Sound) (id : CouponId) :
    (s.coupons.map couponRow).countP (fun row => row.meets [.columnIs "id" 1] [bind id]) =
      (s.coupon? id).toList.length := by
  rw [List.countP_eq_length_filter, filter_rows (meets_id id []), Keyed.filter_key sound.ids,
    List.length_map, coupon?]

/-- A deletion reports the coupon that it finds. -/
theorem perform_delete (sound : s.Sound) (id : CouponId) :
    s.database.perform (deleteById id).params (deleteById id).statement =
      .ok (⟨[], (s.coupon? id).toList.length⟩,
        { s with
          coupons := s.coupons.filter fun c => !decide (c.id = id)
          grants := fun h => (s.grants h).filter fun g =>
            !(s.coupon? id).toList.any fun c => decide (g.couponId = c.id) : Shelf }.database) := by
  let hit (row : Row) : Bool := row.meets [.columnIs "id" 1] [bind id]
  have hits : ∀ c, hit (couponRow c) = decide (c.id = id) := meets_id id []
  rw [← countP_id sound, ← remove_coupons sound id hits]
  rfl

theorem perform_delete_of_stored {id : CouponId} {c : Coupon} (sound : s.Sound)
    (stored : s.coupon? id = some c) :
    s.database.perform (deleteById id).params (deleteById id).statement =
      .ok (⟨[], 1⟩, (s.removeCoupon id).database) := by
  have own : c.id = id := Keyed.key_of_lookup stored
  have grants : (fun g : Grant => !(some c).toList.any fun c => decide (g.couponId = c.id)) =
      fun g => !decide (g.couponId = id) := by
    funext g
    simp [own]
  rw [perform_delete sound, stored]
  simp only [removeCoupon, grants]
  rfl

theorem perform_delete_of_missing {id : CouponId} (sound : s.Sound) (missing : s.coupon? id = none) :
    s.database.perform (deleteById id).params (deleteById id).statement =
      .ok (⟨[], 0⟩, s.database) := by
  have kept : s.coupons.filter (fun c => !decide (c.id = id)) = s.coupons := by
    rw [List.filter_eq_self]
    intro c stored
    have other : c.id ≠ id := by
      rintro rfl
      exact Keyed.lookup_eq_none.1 missing (List.mem_map_of_mem stored)
    simp [other]
  have grants (h : Holder) : (s.grants h).filter
      (fun g => !(none : Option Coupon).toList.any fun c => decide (g.couponId = c.id)) =
        s.grants h := by
    rw [List.filter_eq_self]
    exact fun _ _ => rfl
  rw [perform_delete sound, missing]
  simp only [kept, grants]
  rfl

end Shelf

end Couponry.Sql
