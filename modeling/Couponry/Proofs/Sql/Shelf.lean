import Couponry.Proofs.Sql.Keyed
import Couponry.Proofs.Sql.Server
import Couponry.Sql.Coupons

/-!
# What the tables of the coupons say

The tables of a database as lists of coupons, grants and redemptions, and the rows that stand for
them. `violated?_database` is what the constraints come down to: where the lists are sound, only two
coupons with one code can be refused.
-/

namespace Couponry.Sql

/-- Whom a grant is for. -/
inductive Holder where
  | user
  | product
  deriving DecidableEq, Repr

namespace Holder

/-- The table of the grants. -/
def table : Holder → TableName
  | .user => .userCoupons
  | .product => .productCoupons

/-- The column of the subjects. -/
def subject : Holder → String
  | .user => "user_id"
  | .product => "product_id"

end Holder

/-- A grant as it is stored. -/
structure Grant where
  couponId : CouponId
  subject : Int
  usage : Usage
  createdBy : UserId
  createdAt : Instant
  updatedAt : Option Instant
  deriving DecidableEq, Repr

/-- The coupon and the subject of a grant. -/
def Grant.key (g : Grant) : CouponId × Int :=
  (g.couponId, g.subject)

/-- What the tables say, with the last numbers that were given out. -/
structure Shelf where
  coupons : List Coupon
  grants : Holder → List Grant
  uses : List RedemptionRecord
  lastCouponId : Int
  lastUseId : Int

/-! ## Rows -/

section Bind

variable {α : Type} [Scalar α]

theorem bind_ne_null (a : α) : bind a ≠ .null :=
  Scalar.toValue_ne_null a

theorem bind_inj {a b : α} : bind a = bind b ↔ a = b := by
  refine ⟨fun same => ?_, congrArg bind⟩
  have read := Scalar.ofValue?_toValue a
  rw [show Scalar.toValue a = Scalar.toValue b from same, Scalar.ofValue?_toValue] at read
  exact (Option.some.inj read).symm

end Bind

/-- The row of a coupon. Where it has no counter of its own, nothing is used of no total. -/
def couponRow (c : Coupon) : Row :=
  ⟨[("id", bind c.id), ("code", bind c.code), ("valid_from", bind c.validFrom),
    ("valid_to", bind c.validTo), ("discount_type", bind c.discount.kind.name),
    ("discount_value", bind c.discount.value), ("scope", bind c.scope.name),
    ("used", bind (c.usage.elim 0 Usage.used)), ("total", bind (c.usage.map Usage.total)),
    ("description", bind c.description), ("image_url", bind c.imageUrl),
    ("created_by", bind c.createdBy), ("created_at", bind c.createdAt),
    ("updated_at", bind c.updatedAt)]⟩

/-- The row of a grant. -/
def grantRow (h : Holder) (g : Grant) : Row :=
  ⟨[("coupon_id", bind g.couponId), (h.subject, bind g.subject), ("used", bind g.usage.used),
    ("total", bind g.usage.total), ("created_by", bind g.createdBy),
    ("created_at", bind g.createdAt), ("updated_at", bind g.updatedAt)]⟩

/-- The row of a redemption. -/
def useRow (r : RedemptionRecord) : Row :=
  ⟨[("id", bind r.id), ("coupon_id", bind r.couponId), ("user_id", bind r.userId),
    ("product_id", bind r.productId), ("created_at", bind r.redeemedAt)]⟩

namespace Shelf

/-- Nothing is stored. -/
def empty : Shelf :=
  ⟨[], fun _ => [], [], 0, 0⟩

/-- The coupon with an id. -/
def coupon? (s : Shelf) (id : CouponId) : Option Coupon :=
  Keyed.lookup Coupon.id s.coupons id

/-- The grant of a coupon for a subject. -/
def grant? (s : Shelf) (h : Holder) (id : CouponId) (subject : Int) : Option Grant :=
  Keyed.lookup Grant.key (s.grants h) (id, subject)

/-- The tables. -/
def database (s : Shelf) : Database where
  coupons := ⟨s.coupons.map couponRow, s.lastCouponId⟩
  userCoupons := ⟨(s.grants .user).map (grantRow .user), 0⟩
  productCoupons := ⟨(s.grants .product).map (grantRow .product), 0⟩
  usedCoupons := ⟨s.uses.map useRow, s.lastUseId⟩

@[simp] theorem rows_grants (s : Shelf) (h : Holder) :
    (s.database.relation h.table).rows = (s.grants h).map (grantRow h) := by
  cases h <;> rfl

@[simp] theorem rows_coupons (s : Shelf) :
    (s.database.relation .coupons).rows = s.coupons.map couponRow := rfl

@[simp] theorem rows_uses (s : Shelf) :
    (s.database.relation .usedCoupons).rows = s.uses.map useRow := rfl

/-! ## Constraints -/

/-- What all constraints say, but for the codes. -/
structure Sound (s : Shelf) : Prop where
  ids : (s.coupons.map Coupon.id).Nodup
  windows : ∀ c ∈ s.coupons, c.validFrom < c.validTo
  counters : ∀ c ∈ s.coupons, ∀ u, c.usage = some u → u.used ≤ u.total
  keys : ∀ h, ((s.grants h).map Grant.key).Nodup
  bounds : ∀ h, ∀ g ∈ s.grants h, g.usage.used ≤ g.usage.total
  owned : ∀ h, ∀ g ∈ s.grants h, g.couponId ∈ s.coupons.map Coupon.id
  uses : (s.uses.map RedemptionRecord.id).Nodup

end Shelf

/-- Every required column of a row has a value. -/
def Row.filled (row : Row) (t : TableName) : Bool :=
  (t.columns.filter ColumnRule.required).all fun c => decide (row.at c.name ≠ .null)

theorem filled_couponRow (c : Coupon) : (couponRow c).filled .coupons = true := rfl

theorem filled_grantRow (h : Holder) (g : Grant) : (grantRow h g).filled h.table = true := by
  cases h <;> rfl

theorem filled_useRow (r : RedemptionRecord) : (useRow r).filled .usedCoupons = true := rfl

section Constraints

variable {α κ : Type} {db : Database} {t : TableName} {row : α → Row} {l : List α}

/-- Of rows in which every required column has a value only a constraint with a name can be
violated. -/
theorem violatedIn?_of_filled (rows : (db.relation t).rows = l.map row)
    (filled : ∀ a, (row a).filled t = true) :
    db.violatedIn? t = t.named.find? fun c => !db.satisfies t c := by
  have required : ((t.columns.filter ColumnRule.required).map fun c =>
      Constraint.required c.name).find? (fun c => !db.satisfies t c) = none := by
    rw [List.find?_eq_none]
    intro c column
    obtain ⟨rule, needed, rfl⟩ := List.mem_map.1 column
    have values : ∀ a, (row a).at rule.name ≠ .null := fun a => by
      simpa using List.all_eq_true.1 (filled a) rule needed
    simp [Database.satisfies, rows, values]
  rw [Database.violatedIn?, TableName.constraints, List.find?_append, required, Option.none_or]

/-- A test of rows. -/
theorem satisfies_check (rows : (db.relation t).rows = l.map row) {name : String} {test : Check}
    (passes : ∀ a ∈ l, test.passes (row a) = true) :
    db.satisfies t (.check name test) = true := by
  simpa [Database.satisfies, rows] using passes

/-- A key of rows that has a value in each. -/
theorem satisfies_unique [DecidableEq κ] (rows : (db.relation t).rows = l.map row) {name : String}
    {columns : List String} (key : α → κ) (values : κ → List Value)
    (stands : ∀ a, columns.map (row a).at = values (key a)) (filled : ∀ k, Value.null ∉ values k)
    (injective : ∀ j k, values j = values k → j = k) :
    db.satisfies t (.unique name columns) = decide (l.map key).Nodup := by
  have all : (db.relation t).rows.map (fun row => columns.map row.at) =
      (l.map key).map values := by
    rw [rows, List.map_map, List.map_map]
    exact List.map_congr_left fun a _ => stands a
  have kept : ((l.map key).map values).filter (fun key => decide (Value.null ∉ key)) =
      (l.map key).map values := by
    rw [List.filter_eq_self]
    intro vs keyed
    obtain ⟨k, -, rfl⟩ := List.mem_map.1 keyed
    exact decide_eq_true (filled k)
  have distinct : ((l.map key).map values).Nodup ↔ (l.map key).Nodup := by
    rw [List.Nodup, List.pairwise_map]
    have same : ∀ {j k}, values j ≠ values k ↔ j ≠ k := fun {j k} =>
      not_congr ⟨injective j k, congrArg values⟩
    simp only [same, List.Nodup]
  simp only [Database.satisfies, all, kept, distinct]

end Constraints

namespace Shelf

variable {s : Shelf}

theorem Sound.window (sound : s.Sound) :
    s.database.satisfies .coupons (.check "coupon_window" (.less "valid_from" "valid_to")) =
      true := by
  refine satisfies_check s.rows_coupons fun c stored => ?_
  show decide (c.validFrom < c.validTo) = true
  exact decide_eq_true (sound.windows c stored)

theorem Sound.couponUsage (sound : s.Sound) :
    s.database.satisfies .coupons (.check "coupon_usage" (.atMost "used" "total")) = true := by
  refine satisfies_check s.rows_coupons fun c stored => ?_
  have used : (couponRow c).at "used" = bind (c.usage.elim 0 Usage.used) := rfl
  have total : (couponRow c).at "total" = bind (c.usage.map Usage.total) := rfl
  rw [Check.passes, used, total]
  cases counted : c.usage with
  | none => rfl
  | some u =>
    have bound := sound.counters c stored u counted
    show (!decide (u.total < u.used)) = true
    simp [bound]

theorem couponIds (s : Shelf) :
    s.database.satisfies .coupons (.unique "coupons_pkey" ["id"]) =
      decide (s.coupons.map Coupon.id).Nodup := by
  refine satisfies_unique s.rows_coupons Coupon.id (fun id => [bind id]) (fun c => rfl) ?_ ?_
  · intro id
    simp [(bind_ne_null id).symm]
  · intro i j same
    exact bind_inj.1 (List.cons.inj same).1

theorem couponCodes (s : Shelf) :
    s.database.satisfies .coupons (.unique "unique_coupon_code" ["code"]) =
      decide (s.coupons.map Coupon.code).Nodup := by
  refine satisfies_unique s.rows_coupons Coupon.code (fun code => [bind code]) (fun c => rfl) ?_ ?_
  · intro code
    simp [(bind_ne_null code).symm]
  · intro code other same
    exact bind_inj.1 (List.cons.inj same).1

/-- Of the coupons only the codes can be at fault. -/
theorem Sound.violatedIn?_coupons (sound : s.Sound) :
    s.database.violatedIn? .coupons =
      if (s.coupons.map Coupon.code).Nodup then none
      else some (.unique "unique_coupon_code" ["code"]) := by
  rw [violatedIn?_of_filled s.rows_coupons filled_couponRow]
  have ids := s.couponIds.trans (decide_eq_true sound.ids)
  by_cases codes : (s.coupons.map Coupon.code).Nodup <;>
    simp [TableName.named, List.find?, sound.window, sound.couponUsage, ids, s.couponCodes, codes]

theorem Sound.grantUsage (sound : s.Sound) (h : Holder) (name : String) :
    s.database.satisfies h.table (.check name (.atMost "used" "total")) = true := by
  refine satisfies_check (s.rows_grants h) fun g stored => ?_
  have used : (grantRow h g).at "used" = .int8 g.usage.used := by cases h <;> rfl
  have total : (grantRow h g).at "total" = .int8 g.usage.total := by cases h <;> rfl
  have bound := sound.bounds h g stored
  simp [Check.passes, used, total, Value.before, bound]

theorem Sound.grantKeys (sound : s.Sound) (h : Holder) (name : String) :
    s.database.satisfies h.table (.unique name ["coupon_id", h.subject]) = true := by
  rw [satisfies_unique (s.rows_grants h) Grant.key fun key => [bind key.1, bind key.2]]
  · exact decide_eq_true (sound.keys h)
  · intro g
    cases h <;> rfl
  · intro key
    simp [(bind_ne_null key.1).symm, (bind_ne_null key.2).symm]
  · intro key other same
    obtain ⟨coupon, rest⟩ := List.cons.inj same
    exact Prod.ext (bind_inj.1 coupon) (bind_inj.1 (List.cons.inj rest).1)

theorem Sound.grantOwners (sound : s.Sound) (h : Holder) (name : String) :
    s.database.satisfies h.table (.references name "coupon_id" .coupons "id") = true := by
  simp only [Database.satisfies, rows_grants, rows_coupons, List.all_map, List.all_eq_true]
  intro g stored
  obtain ⟨c, live, same⟩ := List.mem_map.1 (sound.owned h g stored)
  have owner : (grantRow h g).at "coupon_id" = bind g.couponId := by cases h <;> rfl
  have found : (couponRow c).at "id" = bind g.couponId := congrArg bind same
  simp only [Function.comp_apply, owner, Bool.or_eq_true, List.any_eq_true, List.mem_map]
  exact .inr ⟨couponRow c, ⟨c, live, rfl⟩, decide_eq_true found⟩

theorem Sound.violatedIn?_grants (sound : s.Sound) (h : Holder) :
    s.database.violatedIn? h.table = none := by
  rw [violatedIn?_of_filled (s.rows_grants h) (filled_grantRow h), List.find?_eq_none]
  have holds : ∀ {b : Bool}, b = true → ¬(!b) = true := by simp
  intro c named
  cases h <;>
    simp only [Holder.table, TableName.named, List.mem_cons, List.not_mem_nil, or_false] at named <;>
    rcases named with rfl | rfl | rfl
  · exact holds (sound.grantUsage .user _)
  · exact holds (sound.grantKeys .user _)
  · exact holds (sound.grantOwners .user _)
  · exact holds (sound.grantUsage .product _)
  · exact holds (sound.grantKeys .product _)
  · exact holds (sound.grantOwners .product _)

theorem Sound.violatedIn?_uses (sound : s.Sound) : s.database.violatedIn? .usedCoupons = none := by
  have ids : s.database.satisfies .usedCoupons (.unique "used_coupons_pkey" ["id"]) = true := by
    rw [satisfies_unique s.rows_uses RedemptionRecord.id (fun id => [bind id]) (fun r => rfl)]
    · exact decide_eq_true sound.uses
    · intro id
      simp [(bind_ne_null id).symm]
    · intro i j same
      exact bind_inj.1 (List.cons.inj same).1
  rw [violatedIn?_of_filled s.rows_uses filled_useRow]
  simp [TableName.named, List.find?, ids]

/-- **Of a sound shelf a server can only say that a code is taken.** -/
theorem Sound.violated?_database (sound : s.Sound) :
    s.database.violated? =
      if (s.coupons.map Coupon.code).Nodup then none
      else some (Constraint.error .coupons (.unique "unique_coupon_code" ["code"])) := by
  have users := sound.violatedIn?_grants .user
  have products := sound.violatedIn?_grants .product
  simp only [Holder.table] at users products
  rw [Database.violated?, TableName.all]
  by_cases codes : (s.coupons.map Coupon.code).Nodup <;>
    simp [List.findSome?, sound.violatedIn?_coupons, users, products, sound.violatedIn?_uses, codes]

end Shelf

end Couponry.Sql
