import Couponry.Proofs.Json.Decoded
import Couponry.Proofs.Time.Parsed
import Couponry.Proofs.Wire.Faithful

/-!
# What is read can be written

A type is stable if every value that is read of it is faithful. Scalars are, since what is read
fits its word or its calendar; a record is if its fields are, which `Kept.stable` derives from the
walk along its fields.
-/

namespace Couponry

open Couponry.Text Couponry.Json

namespace Wire

/-- Every value that is read is read back from what it is written as. -/
class Stable (depth : Nat) (α : Type) [Wire α] : Prop where
  faithful : ∀ {r : Reading} {a : α}, read r = .ok a → Faithful depth a

/-! ## Scalars -/

section Scalars

variable {depth : Nat}

instance : Stable depth String := ⟨fun _ => faithful_string _⟩

instance : Stable depth Bool := ⟨fun _ => faithful_bool _⟩

instance : Stable depth Int := ⟨fun given => faithful_int (Decoder.int64_eq_ok given)⟩

instance {kind : IdKind} : Stable depth (Id kind) where
  faithful given := by
    obtain ⟨n, word, rfl⟩ := map_eq_ok given
    exact faithful_id (Decoder.int64_eq_ok word)

instance : Stable depth Money where
  faithful given := by
    obtain ⟨n, word, rfl⟩ := map_eq_ok given
    exact faithful_money (Decoder.int64_eq_ok word)

instance : Stable depth Instant where
  faithful given := by
    obtain ⟨s, parsed⟩ := Decoder.parsed_eq_ok given
    obtain ⟨proper, range⟩ := Time.Rfc3339.parse_gives parsed
    exact Instant.Writable.faithful ⟨proper, range⟩

instance : Stable depth ScopeKind := ⟨fun _ => faithful_scopeKind _⟩

theorem faithful_role (r : Role) : Faithful depth r :=
  ⟨by cases depth <;> rfl, by cases r <;> rfl⟩

instance : Stable depth Role := ⟨fun _ => faithful_role _⟩

/-- What may be absent is stable if it is never written as `null`. -/
theorem Stable.option {α : Type} [Wire α] [Stable depth α]
    (present : ∀ a : α, (write a).reading ≠ .null) : Stable depth (Option α) where
  faithful given := by
    rcases Decoder.nullable_eq_ok given with rfl | ⟨a, value, rfl⟩
    · exact faithful_none
    · exact faithful_some (Stable.faithful value) (present a)

instance : Stable depth (Option String) := .option fun _ => Reading.noConfusion

instance {kind : IdKind} : Stable depth (Option (Id kind)) := .option fun _ => Reading.noConfusion

instance : Stable depth (Option Instant) := .option fun _ => Reading.noConfusion

end Scalars

/-! ## Fields -/

section Fields

variable {depth : Nat} {α : Type} [Wire α] {name : String}

/-- A value that is read is a member that can be written. -/
theorem member_fits {a : α} (h : Faithful depth a) : fitsMembers depth [(name, write a)] = true := by
  rw [fitsMembers, h.fits]
  rfl

theorem kept_field [Stable depth α] {expected : α → List (String × Json) → Prop}
    (next : ∀ a, expected a [(name, write a)]) : (field α name).Kept depth expected := by
  intro look a built
  have faithful : Faithful depth a := by
    unfold field Record.required at built
    dsimp only at built
    split at built
    · exact Stable.faithful built
    · cases built
  exact ⟨_, member_fits faithful, .required faithful.reads, next a⟩

theorem kept_field? [Stable depth (Option α)] {expected : Option α → List (String × Json) → Prop}
    (next : ∀ a, expected a [(name, write a)]) : (field? α name).Kept depth expected := by
  intro look a built
  have faithful : Faithful depth a := by
    unfold field? Record.optional at built
    dsimp only at built
    split at built
    · exact Stable.faithful built
    · cases built
      exact faithful_none
  exact ⟨_, member_fits faithful, .optional faithful.reads, next a⟩

theorem kept_trailing? [Stable depth (Option α)]
    {expected : Option α → List (String × Json) → Prop}
    (next : ∀ a, expected a [(name, write a)]) : (trailing? α name).Kept depth expected := by
  intro look a built
  have faithful : Faithful depth a := by
    unfold trailing? Record.defaulted at built
    dsimp only at built
    split at built
    · exact Stable.faithful built
    · cases built
      exact faithful_none
  exact ⟨_, member_fits faithful, .defaulted faithful.reads, next a⟩

/-- **A record is stable** if it is written as the members that its fields are read back from. -/
theorem Stable.ofKept (record : Record α) (reads : read (α := α) = record.read)
    (apart : (record.slots.map Slot.name).Nodup)
    (kept : record.Kept depth fun a members => write a = .object members) :
    Stable (depth + 1) α where
  faithful {r a} given := by
    rw [reads] at given
    obtain ⟨look, built⟩ := Record.build_of_read given
    obtain ⟨members, fits, back, written⟩ := kept look a built
    constructor
    · rw [written]
      exact fits
    · rw [written, Json.reading, memberReadings_eq, reads]
      exact back.read (by rw [back.passes.names]; exact apart)

/-- **A tagged record is stable** if it is written as its tag and the members of its form. -/
theorem Stable.ofTagged {tagName : String} {records : List (String × Record α)}
    (reads : read (α := α) = tagged tagName records)
    (forms : ∀ tag record, records.lookup tag = some record →
      (tagName :: record.slots.map Slot.name).Nodup ∧
      record.Kept depth fun a members => write a = .object ((tagName, .text tag) :: members)) :
    Stable (depth + 1) α where
  faithful {r a} given := by
    rw [reads] at given
    obtain ⟨tag, record, look, known, built⟩ := tagged_eq_ok given
    obtain ⟨apart, kept⟩ := forms tag record known
    obtain ⟨members, fits, back, written⟩ := kept look a built
    rw [List.nodup_cons] at apart
    have names : members.map Prod.fst = record.slots.map Slot.name := by
      rw [← back.passes.names, readings, List.map_map]
      rfl
    have plain : record.read (.object (memberReadings members) true) = .ok a := by
      rw [memberReadings_eq]
      exact back.read (by rw [back.passes.names]; exact apart.2)
    constructor
    · rw [written]
      have name : Json.fits depth (.text tag) = true := (faithful_string tag).fits
      show (Json.fits depth (.text tag) && fitsMembers depth members) = true
      rw [fits, name]
      rfl
    · rw [written, reads]
      exact tagged_read known (by rw [names]; exact apart.1) plain

end Fields

/-! ## Rules and scopes -/

instance {depth : Nat} : Stable (depth + 1) DiscountRule where
  faithful {_ rule} given := by
    obtain ⟨k, r, content⟩ := paired_eq_ok given
    have fits : rule.Fits := by
      cases k with
      | percent =>
        obtain ⟨p, small, rfl⟩ := map_eq_ok content
        exact Decoder.below_eq_ok small
      | value =>
        obtain ⟨amount, money, rfl⟩ := map_eq_ok content
        obtain ⟨n, word, rfl⟩ := map_eq_ok money
        exact Decoder.int64_eq_ok word
    exact fits.faithful

instance {depth : Nat} : Stable (depth + 1) CouponScope :=
  .ofTagged rfl fun tag record known => by
    obtain ⟨before, after, split, -⟩ := List.lookup_eq_some_iff.1 known
    have form : (tag, record) ∈ scopeForms := split ▸ List.mem_append_right before List.mem_cons_self
    simp only [scopeForms, List.mem_cons, Prod.mk.injEq, List.not_mem_nil, or_false] at form
    rcases form with ⟨rfl, rfl⟩ | ⟨rfl, rfl⟩ | ⟨rfl, rfl⟩
    · exact ⟨by decide, .pure rfl⟩
    · exact ⟨by decide, .map (kept_field fun _ => rfl)⟩
    · exact ⟨by decide, .map (kept_field fun _ => rfl)⟩

end Wire

end Couponry
