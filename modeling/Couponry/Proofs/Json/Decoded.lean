import Couponry.Proofs.Json.Record
import Couponry.Proofs.Program.Steps

/-!
# What decoders give

A value that a decoder gives has passed its checks: a number lies in the range of its word, a value
of two members is one of its contents, a tagged one comes from a record of its forms. Of a record,
`Record.Kept` says that whatever it builds is read back from members that can be written; it is
composed as records are, the members of each field known to what comes after it.
-/

namespace Couponry.Json

open Couponry.Text

/-! ## Decoders -/

namespace Decoder

variable {α : Type}

theorem mismatch_ne_ok {r : Reading} {a : α} : mismatch r ≠ .ok a := by
  intro given
  cases r <;> cases given

theorem int64_eq_ok {r : Reading} {n : Int} (given : int64 r = .ok n) : fitsInt64 n = true := by
  cases r with
  | int m =>
    rw [int64] at given
    split at given
    · next word =>
      cases given
      exact word
    · cases given
  | _ => cases given

theorem below_eq_ok {bound : Nat} {r : Reading} {n : Nat} (given : below bound r = .ok n) :
    n < bound := by
  unfold below at given
  split at given
  · split at given
    · next small =>
      cases given
      exact small
    · cases given
  · exact absurd given mismatch_ne_ok

theorem parsed_eq_ok {parse : String → Option α} {r : Reading} {a : α}
    (given : parsed parse r = .ok a) : ∃ s, parse s = some a := by
  unfold parsed at given
  split at given
  · next s =>
    split at given
    · next found =>
      cases given
      exact ⟨s, found⟩
    · cases given
  · exact absurd given mismatch_ne_ok

/-- What may be `null` is absent, or a value. -/
theorem nullable_eq_ok {d : Decoder α} {r : Reading} {a : Option α}
    (given : d.nullable r = .ok a) : a = none ∨ ∃ b, d r = .ok b ∧ a = some b := by
  unfold nullable at given
  split at given
  · cases given
    exact .inl rfl
  · obtain ⟨b, read, rfl⟩ := map_eq_ok given
    exact .inr ⟨b, read, rfl⟩

end Decoder

/-! ## Values of two members -/

section Paired

variable {κ α : Type} {kindName contentName : String} {content : κ → Decoder α}

/-- The whole value, once it is known, is one of the contents. -/
def Halves.From (content : κ → Decoder α) : Halves κ α → Prop
  | .both a => ∃ k r, content k r = .ok a
  | _ => True

theorem readHalves_eq_ok {kind : Decoder κ} {members : List (Option String × Reading)}
    {closed : Bool} {a : α} (found : Halves κ α) (from' : found.From content)
    (given : readHalves kindName contentName kind content found members closed = .ok a) :
    ∃ k r, content k r = .ok a := by
  induction members generalizing found with
  | nil =>
    unfold readHalves at given
    split at given
    · cases given
    · split at given
      · cases given
        exact from'
      · cases given
  | cons m members ih =>
    obtain ⟨name, r⟩ := m
    cases name with
    | none => cases given
    | some name =>
      unfold readHalves at given
      split at given
      · split at given
        · obtain ⟨k, -, later⟩ := bind_eq_ok given
          exact ih (.kind k) trivial later
        · next stored =>
          obtain ⟨k, -, later⟩ := bind_eq_ok given
          cases read : content k stored with
          | ok b =>
            rw [read] at later
            exact ih (.both b) ⟨k, stored, read⟩ later
          | error fault =>
            rw [read] at later
            cases later
        · cases given
      · split at given
        · split at given
          · split at given
            · exact ih (.content r) trivial given
            · cases given
          · next k =>
            obtain ⟨b, read, later⟩ := bind_eq_ok given
            exact ih (.both b) ⟨k, r, read⟩ later
          · cases given
        · split at given
          · exact ih found from' given
          · cases given

/-- **A value of two members is one of its contents.** -/
theorem paired_eq_ok {kinds : List (String × κ)} {r : Reading} {a : α}
    (given : paired kindName contentName kinds content r = .ok a) : ∃ k r, content k r = .ok a := by
  cases r with
  | object members closed => exact readHalves_eq_ok .neither trivial given
  | array items closed =>
    match items, given with
    | [], given => cases given
    | [k], given =>
      obtain ⟨name, -, given⟩ := bind_eq_ok given
      obtain ⟨k, -, given⟩ := bind_eq_ok given
      cases given
    | k :: r :: rest, given =>
      obtain ⟨name, -, given⟩ := bind_eq_ok given
      obtain ⟨k, -, given⟩ := bind_eq_ok given
      obtain ⟨b, read, given⟩ := bind_eq_ok given
      split at given
      · cases given
        exact ⟨k, r, read⟩
      · cases given
  | _ => cases given

end Paired

/-! ## Records -/

/-- **What a record reads, it builds** from what it finds. -/
theorem Record.build_of_read {α : Type} {record : Record α} {r : Reading} {a : α}
    (given : record.read r = .ok a) : ∃ look, record.build look = .ok a := by
  unfold Record.read at given
  split at given
  · obtain ⟨-, -, built⟩ := bind_eq_ok given
    exact ⟨_, built⟩
  · obtain ⟨-, -, built⟩ := bind_eq_ok given
    exact ⟨_, built⟩
  · exact absurd given Decoder.mismatch_ne_ok

/-- **A tagged value is built** by the record of one of its forms. -/
theorem tagged_eq_ok {α : Type} {tagName : String} {records : List (String × Record α)} {r : Reading}
    {a : α} (given : tagged tagName records r = .ok a) :
    ∃ tag record look, records.lookup tag = some record ∧ record.build look = .ok a := by
  have finish : ∀ {tag : String} {record : Record α} {others : Reading} {a' : α},
      records.lookup tag = some record → record.read others = .ok a' →
      (.ok a' : Except Fault α) = .ok a →
      ∃ tag record look, records.lookup tag = some record ∧ record.build look = .ok a := by
    intro tag record others a' found read same
    cases same
    obtain ⟨look, built⟩ := Record.build_of_read read
    exact ⟨tag, record, look, found, built⟩
  unfold tagged at given
  dsimp only at given
  split at given
  · obtain ⟨⟨tag, others⟩, -, given⟩ := bind_eq_ok given
    split at given
    · next record found =>
      split at given
      · next read => exact finish found read given
      · cases given
    · cases given
  · cases given
  · next t rest closed =>
    obtain ⟨tag, -, given⟩ := bind_eq_ok given
    split at given
    · split at given
      · next record found =>
        split at given
        · next read => exact finish found read given
        · cases given
      · cases given
    · cases given
  · exact absurd given Decoder.mismatch_ne_ok

/-! ## Members that are written -/

mutual

/-- **Whatever is written can be kept** for later. -/
theorem storable_reading : ∀ j : Json, j.reading.storable = true
  | .null | .bool _ | .int _ | .text _ => rfl
  | .array items => storable_itemReadings items
  | .object members => storable_memberReadings members

theorem storable_itemReadings : ∀ items, Reading.storableItems (itemReadings items) = true
  | [] => rfl
  | v :: items => by
    rw [itemReadings, Reading.storableItems, storable_reading v, storable_itemReadings items]
    rfl

theorem storable_memberReadings : ∀ members, Reading.storableMembers (memberReadings members) = true
  | [] => rfl
  | (_, v) :: members => by
    rw [memberReadings, Reading.storableMembers, storable_reading v, storable_memberReadings members]
    rfl

end

/-- The trees of members. -/
def readings (members : List (String × Json)) : List (String × Reading) :=
  members.map fun m => (m.1, m.2.reading)

theorem memberReadings_eq (members : List (String × Json)) :
    memberReadings members = Record.asMembers (readings members) := by
  induction members with
  | nil => rfl
  | cons m members ih =>
    rw [memberReadings, ih]
    rfl

theorem readings_append (members more : List (String × Json)) :
    readings (members ++ more) = readings members ++ readings more :=
  List.map_append

theorem fitsMembers_append {depth : Nat} {members more : List (String × Json)}
    (first : fitsMembers depth members = true) (second : fitsMembers depth more = true) :
    fitsMembers depth (members ++ more) = true := by
  induction members with
  | nil => exact second
  | cons m members ih =>
    rw [fitsMembers, Bool.and_eq_true] at first
    rw [List.cons_append, fitsMembers, first.1, ih first.2]
    rfl

namespace Record

/-- The members have the names of the slots. -/
theorem Passes.names {slots : List Slot} {members : List (String × Reading)}
    (passes : Passes slots members) : members.map Prod.fst = slots.map Slot.name := by
  induction passes with
  | nil => rfl
  | cons _ _ ih => rw [List.map_cons, List.map_cons, ih]

/-- Whatever the record builds is read back from members that can be written and are what is
expected of it. -/
def Kept {α : Type} (depth : Nat) (record : Record α)
    (expected : α → List (String × Json) → Prop) : Prop :=
  ∀ look a, record.build look = .ok a →
    ∃ members, fitsMembers depth members = true ∧ record.Reads (readings members) a ∧
      expected a members

namespace Kept

variable {α β : Type} {depth : Nat}

theorem pure {a : α} {expected : α → List (String × Json) → Prop} (h : expected a []) :
    (Pure.pure a : Record α).Kept depth expected := by
  rintro look b ⟨⟩
  exact ⟨[], rfl, ⟨.nil, fun _ _ => rfl⟩, h⟩

theorem map {f : α → β} {record : Record α} {expected : β → List (String × Json) → Prop}
    (h : record.Kept depth fun a => expected (f a)) : (f <$> record).Kept depth expected := by
  intro look b built
  obtain ⟨a, inner, rfl⟩ := map_eq_ok built
  obtain ⟨members, fits, reads, meets⟩ := h look a inner
  exact ⟨members, fits, reads.map f, meets⟩

/-- What comes after a record knows its value and its members. -/
theorem seq {fs : Record (α → β)} {record : Record α} {expected : β → List (String × Json) → Prop}
    (h : fs.Kept depth fun f members =>
      record.Kept depth fun a more => expected (f a) (members ++ more)) :
    (fs <*> record).Kept depth expected := by
  intro look b built
  obtain ⟨f, first, built⟩ := bind_eq_ok built
  obtain ⟨a, second, rfl⟩ := map_eq_ok built
  obtain ⟨members, fits, reads, next⟩ := h look f first
  obtain ⟨more, fits', reads', meets⟩ := next look a second
  refine ⟨members ++ more, fitsMembers_append fits fits', ?_, meets⟩
  rw [readings_append]
  exact reads.seq reads'

end Kept

end Record

/-! ## Tagged values read back -/

section Tagged

variable {α : Type} {tagName tag : String} {records : List (String × Record α)}

/-- The members after the tag are kept in their order. -/
theorem splitTag_found {decoder : Decoder String} {members : List (String × Json)}
    (others : tagName ∉ members.map Prod.fst) {done : List (Option String × Reading)} :
    splitTag tagName decoder (some tag) done (memberReadings members) true =
      .ok (tag, .object (done.reverse ++ memberReadings members) true) := by
  induction members generalizing done with
  | nil =>
    rw [memberReadings, List.append_nil]
    rfl
  | cons m members ih =>
    obtain ⟨name, v⟩ := m
    rw [List.map_cons, List.mem_cons, not_or] at others
    have different : (name == tagName) = false := beq_eq_false_iff_ne.2 (Ne.symm others.1)
    rw [memberReadings, splitTag, different, if_neg Bool.false_ne_true, if_pos (storable_reading v),
      ih others.2, List.reverse_cons, List.append_assoc]
    rfl

/-- **A tagged record reads back** from its tag and its members. -/
theorem tagged_read {record : Record α} {members : List (String × Json)} {a : α}
    (known : records.lookup tag = some record) (others : tagName ∉ members.map Prod.fst)
    (reads : record.read (.object (memberReadings members) true) = .ok a) :
    tagged tagName records (.object ((some tagName, .text tag) :: memberReadings members) true) =
      .ok a := by
  unfold tagged
  dsimp only
  rw [splitTag, beq_self_eq_true, if_pos rfl, Decoder.text]
  dsimp only [bind, Except.bind]
  rw [known, Option.isSome_some, if_pos rfl]
  dsimp only
  rw [splitTag_found others, List.reverse_nil, List.nil_append]
  dsimp only
  rw [known]
  dsimp only
  rw [reads]

end Tagged

end Couponry.Json
