import Couponry.Proofs.Sql.Statements

/-!
# What statements read

Each statement of the store of coupons that looks something up gives rows of the shelf, and a row
reads back as what it stands for.
-/

namespace Couponry.Sql

open Coupons

/-! ## Rows that read back -/

theorem column_bind {α : Type} [Column α] {row : Row} {name : String} {a : α}
    (stands : row.value? name = some (bind a)) : column α row name = .ok a := by
  rw [column, Row.get, stands, Option.bind_some, bind, Column.ofValue?_toValue]
  rfl

theorem readCoupon_couponRow {c : Coupon}
    (rule : DiscountRule.ofParts c.discount.kind c.discount.value = .ok c.discount)
    (limited : ∀ u, c.usage = some u → c.scope = .limited) : readCoupon (couponRow c) = .ok c := by
  have kind : readKind (couponRow c) = .ok c.discount.kind := by
    have name : column String (couponRow c) "discount_type" = .ok c.discount.kind.name :=
      column_bind rfl
    rw [readKind, name]
    cases c.discount.kind <;> rfl
  have value : column Int (couponRow c) "discount_value" = .ok c.discount.value := column_bind rfl
  have discount : readRule (couponRow c) = .ok c.discount := by
    rw [readRule, kind, value]
    show Except.mapError _ (DiscountRule.ofParts c.discount.kind c.discount.value) = _
    rw [rule]
    rfl
  have total : column (Option Int) (couponRow c) "total" = .ok (c.usage.map Usage.total) :=
    column_bind rfl
  have used : column Int (couponRow c) "used" = .ok (c.usage.elim 0 Usage.used) := column_bind rfl
  have counter : readCounter (couponRow c) c.scope (c.usage.map Usage.total) = .ok c.usage := by
    cases counted : c.usage with
    | none => cases c.scope <;> rfl
    | some u =>
      rw [counted] at used
      rw [limited u counted]
      show (column Int (couponRow c) "used" >>= fun used => pure (some (Usage.mk used u.total))) = _
      rw [used]
      rfl
  have scope : readScope (couponRow c) = .ok c.scope := by
    have name : column String (couponRow c) "scope" = .ok c.scope.name := column_bind rfl
    rw [readScope, name]
    cases c.scope <;> rfl
  have id : column CouponId (couponRow c) "id" = .ok c.id := column_bind rfl
  have code : column String (couponRow c) "code" = .ok c.code := column_bind rfl
  have validFrom : column Instant (couponRow c) "valid_from" = .ok c.validFrom := column_bind rfl
  have validTo : column Instant (couponRow c) "valid_to" = .ok c.validTo := column_bind rfl
  have description : column (Option String) (couponRow c) "description" = .ok c.description :=
    column_bind rfl
  have imageUrl : column (Option String) (couponRow c) "image_url" = .ok c.imageUrl := column_bind rfl
  have createdBy : column UserId (couponRow c) "created_by" = .ok c.createdBy := column_bind rfl
  have createdAt : column Instant (couponRow c) "created_at" = .ok c.createdAt := column_bind rfl
  have updatedAt : column (Option Instant) (couponRow c) "updated_at" = .ok c.updatedAt :=
    column_bind rfl
  rw [readCoupon, discount, scope, total, id, code, validFrom, validTo, description, imageUrl,
    createdBy, createdAt, updatedAt]
  show (readCounter (couponRow c) c.scope (c.usage.map Usage.total) >>= fun usage => _) = _
  rw [counter]
  rfl

/-- The counter of a grant as an answer. -/
def usageRow (u : Usage) : Row :=
  ⟨[("used", bind u.used), ("total", bind u.total)]⟩

theorem readUse_useRow (r : RedemptionRecord) : readUse (useRow r) = .ok r := by
  have productId : column (Option ProductId) (useRow r) "product_id" = .ok r.productId :=
    column_bind rfl
  show (column (Option ProductId) (useRow r) "product_id" >>= fun productId =>
    pure (RedemptionRecord.mk r.id r.couponId r.userId productId r.redeemedAt)) = _
  rw [productId]
  rfl

/-- An entry of a history as an answer. -/
def usedRow (p : RedemptionRecord × Coupon) : Row :=
  ⟨[("code", bind p.2.code), ("description", bind p.2.description), ("image_url", bind p.2.imageUrl),
    ("created_at", bind p.1.redeemedAt)]⟩

/-- What a user sees of a redemption. -/
def entry (p : RedemptionRecord × Coupon) : UsedCoupon :=
  ⟨p.2.code, p.2.description, p.2.imageUrl, p.1.redeemedAt⟩

theorem readUsed_usedRow (p : RedemptionRecord × Coupon) : readUsed (usedRow p) = .ok (entry p) := by
  have description : column (Option String) (usedRow p) "description" = .ok p.2.description :=
    column_bind rfl
  have imageUrl : column (Option String) (usedRow p) "image_url" = .ok p.2.imageUrl := column_bind rfl
  show (column (Option String) (usedRow p) "description" >>= fun description =>
    column (Option String) (usedRow p) "image_url" >>= fun imageUrl =>
      pure (UsedCoupon.mk p.2.code description imageUrl p.1.redeemedAt)) = _
  rw [description, imageUrl]
  rfl

/-! ## Lookups -/

theorem perform_select_of_source {db : Database} {params : List Value} {source : Source}
    {rows : List Row} (given : db.sourceRows params source = .ok rows) (columns : List String)
    (conditions : List Condition) (order : List String) :
    db.perform params (.select columns source conditions order) =
      .ok (⟨(sorted order (rows.filter fun row => row.meets conditions params)).map
          fun row => row.project columns,
        (rows.filter fun row => row.meets conditions params).length⟩, db) := by
  rw [Database.perform, given]
  rfl

/-- A table of which some rows are looked up. -/
theorem perform_select {α : Type} {db : Database} {t : TableName} {name : String} {row : α → Row}
    {l : List α} {pass : α → Bool} {conditions : List Condition} {params : List Value}
    (named : Database.table name = .ok t) (rows : (db.relation t).rows = l.map row)
    (passes : ∀ a, (row a).meets conditions params = pass a) (columns : List String) :
    db.perform params (.select columns (.table name) conditions []) =
      .ok (⟨(l.filter pass).map fun a => (row a).project columns, (l.filter pass).length⟩, db) := by
  have source : db.sourceRows params (.table name) = .ok (l.map row) := by
    rw [Database.sourceRows, named, ← rows]
    rfl
  rw [perform_select_of_source source, filter_rows passes, sorted, List.map_map, List.length_map]
  rfl

namespace Shelf

variable {s : Shelf}

theorem perform_selectByCode (s : Shelf) (code : String) :
    s.database.perform (selectByCode code).params (selectByCode code).statement =
      .ok (⟨(s.coupons.filter fun c => decide (c.code = code)).map couponRow,
        (s.coupons.filter fun c => decide (c.code = code)).length⟩, s.database) :=
  perform_select rfl s.rows_coupons (meets_code code) columns

theorem perform_selectGrant (sound : s.Sound) (h : Holder) (id : CouponId) (subject : Int) :
    s.database.perform (selectGrant h.table.text h.subject id (bind subject)).params
        (selectGrant h.table.text h.subject id (bind subject)).statement =
      .ok (⟨(s.grant? h id subject).toList.map fun g => usageRow g.usage,
        (s.grant? h id subject).toList.length⟩, s.database) := by
  have part : (fun g => (grantRow h g).project ["used", "total"]) = fun g => usageRow g.usage := by
    cases h <;> rfl
  rw [grant?, ← Keyed.filter_key (sound.keys h), ← part]
  exact perform_select (by cases h <;> rfl) (s.rows_grants h) (meets_key h id subject []) _

end Shelf

/-! ## Histories -/

/-- The redemption comes no later than another. -/
def comesFirst (r q : RedemptionRecord) : Bool :=
  decide (r.redeemedAt < q.redeemedAt ∨ r.redeemedAt = q.redeemedAt ∧ r.id ≤ q.id)

/-- A redemption and its coupon in the columns of both tables. -/
def joinedRow (p : RedemptionRecord × Coupon) : Row :=
  ⟨(useRow p.1).qualify "uc" ++ (couponRow p.2).qualify "c"⟩

theorem holds_on (params : List Value) (p : RedemptionRecord × Coupon) :
    (Condition.equal (.column "uc.coupon_id") (.column "c.id")).holds params (joinedRow p) =
      decide (p.2.id = p.1.couponId) := by
  show (decide (bind p.1.couponId ≠ .null) && decide (bind p.1.couponId = bind p.2.id)) = _
  rw [decide_eq_true (bind_ne_null _), Bool.true_and]
  exact decide_eq_decide.2 (bind_inj.trans eq_comm)

theorem meets_userId (userId : UserId) (p : RedemptionRecord × Coupon) :
    (joinedRow p).meets [.columnIs "uc.user_id" 1] [bind userId] = decide (p.1.userId = userId) := by
  have same : (Condition.columnIs "uc.user_id" 1).holds [bind userId] (joinedRow p) =
      decide (p.1.userId = userId) :=
    holds_columnIs rfl rfl
  simp [Row.meets, same]

theorem inOrder_joinedRow (p q : RedemptionRecord × Coupon) :
    Row.inOrder ["uc.created_at", "uc.id"] (joinedRow p) (joinedRow q) =
      comesFirst p.1 q.1 := by
  show (decide (p.1.redeemedAt < q.1.redeemedAt) ||
    decide (bind p.1.redeemedAt = bind q.1.redeemedAt) &&
      (decide (p.1.id < q.1.id) || decide (bind p.1.id = bind q.1.id) && true)) = _
  rw [comesFirst, Bool.eq_iff_iff]
  simp [bind_inj, Int.le_iff_lt_or_eq]

theorem flatMap_toList {α β : Type} (f : α → Option β) (l : List α) :
    l.flatMap (fun a => (f a).toList) = l.filterMap f := by
  induction l with
  | nil => rfl
  | cons a l ih => cases found : f a <;> simp [found, ih]

namespace Shelf

variable {s : Shelf}

/-- The redemption with its coupon, if that still exists. -/
def withCoupon (s : Shelf) (r : RedemptionRecord) : Option (RedemptionRecord × Coupon) :=
  (s.coupon? r.couponId).map fun c => (r, c)

/-- The redemptions of a user whose coupons still exist, oldest first. -/
def history (s : Shelf) (userId : UserId) : List (RedemptionRecord × Coupon) :=
  ((s.uses.filterMap s.withCoupon).filter fun p => decide (p.1.userId = userId)).mergeSort
    fun p q => comesFirst p.1 q.1

/-- Every redemption is joined with its coupon, if that still exists. -/
theorem sourceRows_uses (sound : s.Sound) (params : List Value) :
    s.database.sourceRows params (.join "used_coupons" "uc" "coupons" "c"
        (.equal (.column "uc.coupon_id") (.column "c.id"))) =
      .ok ((s.uses.filterMap s.withCoupon).map joinedRow) := by
  let on (row : Row) : Bool :=
    (Condition.equal (.column "uc.coupon_id") (.column "c.id")).holds params row
  have partners (r : RedemptionRecord) :
      ((s.coupons.map couponRow).map fun b => ⟨(useRow r).qualify "uc" ++ b.qualify "c"⟩).filter on =
        ((s.withCoupon r).map joinedRow).toList := by
    have joins (c : Coupon) : on (joinedRow (r, c)) = decide (c.id = r.couponId) :=
      holds_on params (r, c)
    rw [List.map_map]
    show (s.coupons.map fun c => joinedRow (r, c)).filter on = _
    rw [filter_rows joins, Keyed.filter_key sound.ids, withCoupon, coupon?]
    cases Keyed.lookup Coupon.id s.coupons r.couponId <;> rfl
  show Except.ok ((s.uses.map useRow).flatMap fun a =>
    ((s.coupons.map couponRow).map fun b => ⟨a.qualify "uc" ++ b.qualify "c"⟩).filter on) = _
  rw [List.flatMap_map, List.map_filterMap, ← flatMap_toList]
  exact congrArg Except.ok (congrArg s.uses.flatMap (funext partners))

theorem perform_selectUses (sound : s.Sound) (userId : UserId) :
    s.database.perform (selectUses userId).params (selectUses userId).statement =
      .ok (⟨(s.history userId).map usedRow, (s.history userId).length⟩, s.database) := by
  let pairs := s.uses.filterMap s.withCoupon
  let mine := pairs.filter fun p => decide (p.1.userId = userId)
  have found : (pairs.map joinedRow).filter (fun row =>
      row.meets [.columnIs "uc.user_id" 1] (selectUses userId).params) = mine.map joinedRow :=
    filter_rows (meets_userId userId) pairs
  have order : sorted ["uc.created_at", "uc.id"] (mine.map joinedRow) =
      (mine.mergeSort fun p q => comesFirst p.1 q.1).map joinedRow :=
    (List.map_mergeSort fun p _ q _ => (inOrder_joinedRow p q).symm).symm
  have part : (fun row => row.project ["c.code", "c.description", "c.image_url", "uc.created_at"]) ∘
      joinedRow = usedRow := rfl
  refine (perform_select_of_source (sourceRows_uses sound _) _ _ _).trans ?_
  show Except.ok (Outcome.mk ((sorted _ ((pairs.map joinedRow).filter _)).map _)
    ((pairs.map joinedRow).filter _).length, s.database) = _
  rw [found, order, List.map_map, part, List.length_map, history, List.length_mergeSort]

end Shelf

end Couponry.Sql
