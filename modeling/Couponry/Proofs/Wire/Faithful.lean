import Couponry.Proofs.Json.Record
import Couponry.Proofs.Time.Rfc3339
import Couponry.Wire.Coupon

/-!
# Values read back from the wire

A value is faithful if reading gives back what was written. Texts always are; numbers are if they fit
their word, instants if their year can be read, and a record is if its fields are.
-/

namespace Couponry

open Couponry.Text Couponry.Json

namespace Wire

/-- The value is read back from what it is written as. -/
structure Faithful {α : Type} [Wire α] (depth : Nat) (a : α) : Prop where
  fits : (write a).fits depth = true
  reads : read (write a).reading = .ok a

/-- **A faithful value reads back from its text.** -/
theorem Faithful.ofText {α : Type} [Wire α] {a : α} (h : Faithful Reading.maxDepth a) :
    ofText α (toText a) = .ok a := by
  rw [Wire.ofText, toText, Reading.ofText_render h.fits, ofDocument, Reading.Document.read, h.reads]
  rfl

section Scalars

variable {depth : Nat}

theorem faithful_string (s : String) : Faithful depth s :=
  ⟨by cases depth <;> rfl, rfl⟩

theorem faithful_bool (b : Bool) : Faithful depth b :=
  ⟨by cases depth <;> rfl, rfl⟩

theorem fits_int {n : Int} (word : fitsInt64 n = true) : (Json.int n).fits depth = true := by
  rw [fitsInt64, decide_eq_true_eq] at word
  rw [fits, decide_eq_true_eq]
  omega

theorem faithful_int {n : Int} (word : fitsInt64 n = true) : Faithful depth n :=
  ⟨fits_int word, if_pos word⟩

theorem faithful_id {kind : IdKind} {id : Id kind} (word : fitsInt64 id.value = true) :
    Faithful depth id where
  fits := fits_int word
  reads := by
    have number : Decoder.int64 (.int id.value) = .ok id.value := if_pos word
    show (Decoder.int64 (.int id.value)).map Id.mk = _
    rw [number]
    rfl

theorem faithful_money {m : Money} (word : fitsInt64 m.cents = true) : Faithful depth m where
  fits := fits_int word
  reads := by
    have number : Decoder.int64 (.int m.cents) = .ok m.cents := if_pos word
    show (Decoder.int64 (.int m.cents)).map Money.mk = _
    rw [number]
    rfl

theorem faithful_scopeKind (k : ScopeKind) : Faithful depth k :=
  ⟨by cases depth <;> rfl, by cases k <;> rfl⟩

end Scalars

/-- A value that is not written as `null` is told from an absent one. -/
theorem faithful_some {α : Type} [Wire α] {depth : Nat} {a : α} (h : Faithful depth a)
    (present : (write a).reading ≠ .null) : Faithful depth (some a) where
  fits := h.fits
  reads := by
    have value : Decoder.nullable (read (α := α)) (write a).reading =
        (read (write a).reading).map some := by
      rw [Decoder.nullable]
      exact present
    show Decoder.nullable (read (α := α)) (write a).reading = _
    rw [value, h.reads]
    rfl

theorem faithful_none {α : Type} [Wire α] {depth : Nat} : Faithful depth (none : Option α) :=
  ⟨by cases depth <;> rfl, rfl⟩

theorem faithful_string? {depth : Nat} (s : Option String) : Faithful depth s := by
  cases s with
  | none => exact faithful_none
  | some s => exact faithful_some (faithful_string s) Reading.noConfusion

theorem faithful_id? {kind : IdKind} {depth : Nat} {id : Option (Id kind)}
    (word : ∀ i ∈ id, fitsInt64 i.value = true) : Faithful depth id := by
  cases id with
  | none => exact faithful_none
  | some id => exact faithful_some (faithful_id (word id rfl)) Reading.noConfusion

end Wire

/-! ## What fits -/

/-- The instant can be written and read. -/
structure Instant.Writable (t : Instant) : Prop where
  proper : t.Proper
  range : Date.yearInRange t.date.year = true

theorem Instant.Writable.faithful {t : Instant} {depth : Nat} (h : t.Writable) :
    Wire.Faithful depth t where
  fits := by cases depth <;> rfl
  reads := by
    show Decoder.parsed Time.Rfc3339.parse (.text (Time.Rfc3339.format t)) = _
    rw [Decoder.parsed, Time.Rfc3339.parse_format h.proper h.range]

/-- The number of the rule fits its word. -/
def DiscountRule.Fits : DiscountRule → Prop
  | .percent p => p < 2 ^ 32
  | .fixedValue amount => fitsInt64 amount.cents = true

/-- A rule reads back, once its content does. -/
theorem DiscountRule.faithful_of_content {rule : DiscountRule} {depth : Nat}
    (fits : (Json.int rule.value).fits depth = true)
    (content : Wire.ruleContent rule.kind (.int rule.value) = .ok rule) :
    Wire.Faithful (depth + 1) rule where
  fits := by
    have kind : (Json.text (Wire.ruleForm rule.kind)).fits depth = true := by cases depth <;> rfl
    show (Json.fits depth (.text (Wire.ruleForm rule.kind)) &&
      (Json.fits depth (.int rule.value) && true)) = true
    rw [kind, fits]
    rfl
  reads := by
    have kind : Decoder.choice ([.percent, .value].map fun k => (Wire.ruleForm k, k))
        (.text (Wire.ruleForm rule.kind)) = .ok rule.kind := by
      cases rule <;> rfl
    show paired "kind" "value" ([.percent, .value].map fun k => (Wire.ruleForm k, k))
      Wire.ruleContent (.object [(some "kind", .text (Wire.ruleForm rule.kind)),
        (some "value", .int rule.value)] true) = _
    rw [paired, readHalves, if_pos (by rfl), kind]
    show (do
      let a ← Wire.ruleContent rule.kind (.int rule.value)
      readHalves "kind" "value" _ Wire.ruleContent (.both a) [] true) = _
    rw [content]
    rfl

theorem DiscountRule.Fits.faithful {rule : DiscountRule} {depth : Nat} (h : rule.Fits) :
    Wire.Faithful (depth + 1) rule := by
  cases rule with
  | percent p =>
    have small : p < 2 ^ 32 := h
    have number : Decoder.below (2 ^ 32) (.int (.ofNat p)) = .ok p := if_pos small
    refine DiscountRule.faithful_of_content ?_ ?_
    · show (Json.int p).fits depth = true
      rw [Json.fits, decide_eq_true_eq]
      omega
    · show (Decoder.below (2 ^ 32) (.int (.ofNat p))).map DiscountRule.percent = _
      rw [number]
      rfl
  | fixedValue amount =>
    have money : Wire.Faithful depth amount := Wire.faithful_money h
    refine DiscountRule.faithful_of_content (Wire.fits_int h) ?_
    show (Wire.read (α := Money) (Wire.write amount).reading).map DiscountRule.fixedValue = _
    rw [money.reads]
    rfl

/-- Both numbers of the counter fit their words. -/
structure Usage.Fits (u : Usage) : Prop where
  used : fitsInt64 u.used = true
  total : fitsInt64 u.total = true

theorem Usage.Fits.faithful {u : Usage} {depth : Nat} (h : u.Fits) :
    Wire.Faithful (depth + 1) u where
  fits := by
    show (Json.fits depth (.int u.used) && (Json.fits depth (.int u.total) && true)) = true
    rw [Wire.fits_int h.used, Wire.fits_int h.total]
    rfl
  reads := by
    have used : Wire.Faithful 0 u.used := Wire.faithful_int h.used
    have total : Wire.Faithful 0 u.total := Wire.faithful_int h.total
    have fields : Wire.usage.Reads [("used", .int u.used), ("total", .int u.total)] u :=
      ((Record.Reads.required used.reads).map Usage.mk).seq (.required total.reads)
    have apart : ["used", "total"].Nodup := by decide
    exact fields.read apart

/-- All that is shown of a coupon fits its form. -/
structure CouponView.Fits (v : CouponView) : Prop where
  discount : v.discount.Fits
  validFrom : v.validFrom.Writable
  validTo : v.validTo.Writable
  usage : ∀ u ∈ v.usage, u.Fits

theorem CouponView.Fits.faithful {v : CouponView} {depth : Nat} (h : v.Fits) :
    Wire.Faithful (depth + 2) v := by
  have code : Wire.Faithful (depth + 1) v.code := Wire.faithful_string v.code
  have discount : Wire.Faithful (depth + 1) v.discount := h.discount.faithful
  have scope : Wire.Faithful (depth + 1) v.scope := Wire.faithful_scopeKind v.scope
  have validFrom : Wire.Faithful (depth + 1) v.validFrom := h.validFrom.faithful
  have validTo : Wire.Faithful (depth + 1) v.validTo := h.validTo.faithful
  have usage : Wire.Faithful (depth + 1) v.usage := by
    cases shown : v.usage with
    | none => exact Wire.faithful_none
    | some u => exact Wire.faithful_some (h.usage u shown).faithful Reading.noConfusion
  have description : Wire.Faithful (depth + 1) v.description := Wire.faithful_string? v.description
  have imageUrl : Wire.Faithful (depth + 1) v.imageUrl := Wire.faithful_string? v.imageUrl
  have canUse : Wire.Faithful (depth + 1) v.canUse := Wire.faithful_bool v.canUse
  constructor
  · show fitsMembers (depth + 1) _ = true
    simp only [fitsMembers, code.fits, discount.fits, scope.fits, validFrom.fits, validTo.fits,
      usage.fits, description.fits, imageUrl.fits, canUse.fits, Bool.and_self]
  · have fields : Wire.couponView.Reads [("code", (Wire.write v.code).reading),
        ("discount", (Wire.write v.discount).reading), ("scope", (Wire.write v.scope).reading),
        ("valid_from", (Wire.write v.validFrom).reading),
        ("valid_to", (Wire.write v.validTo).reading), ("usage", (Wire.write v.usage).reading),
        ("description", (Wire.write v.description).reading),
        ("image_url", (Wire.write v.imageUrl).reading),
        ("can_use", (Wire.write v.canUse).reading)] v :=
      ((((((((Record.Reads.required code.reads).map CouponView.mk).seq (.required discount.reads)).seq
        (.required scope.reads)).seq (.required validFrom.reads)).seq
        (.required validTo.reads)).seq (.optional usage.reads)).seq
        (.optional description.reads)).seq (.optional imageUrl.reads) |>.seq (.required canUse.reads)
    have apart : ["code", "discount", "scope", "valid_from", "valid_to", "usage", "description",
        "image_url", "can_use"].Nodup := by decide
    exact fields.read apart

end Couponry
