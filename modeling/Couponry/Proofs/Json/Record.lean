import Couponry.Json.Record
import Couponry.Proofs.Json.Reading

/-!
# Records read back

A record that is written as an object, each field under its name and in the order of its slots, reads
back. What is to be shown of a record is shown of its fields: `Record.Reads` is composed as records
are.
-/

namespace Couponry.Json

namespace Record

/-- The members are those of the slots, in their order, and pass their checks. -/
inductive Passes : List Slot → List (String × Reading) → Prop where
  | nil : Passes [] []
  | cons {slot : Slot} {slots : List Slot} {r : Reading} {members : List (String × Reading)}
      (check : slot.check r = .ok ()) (others : Passes slots members) :
      Passes (slot :: slots) ((slot.name, r) :: members)

theorem Passes.append {slots others : List Slot} {members more : List (String × Reading)}
    (first : Passes slots members) (second : Passes others more) :
    Passes (slots ++ others) (members ++ more) := by
  induction first with
  | nil => exact second
  | cons check _ ih => exact .cons check ih

/-- Of slots with different names, each member finds its own. -/
theorem Passes.find {slots : List Slot} {members : List (String × Reading)}
    (passes : Passes slots members) (apart : (members.map Prod.fst).Nodup) :
    ∀ m ∈ members, ∃ slot, slots.find? (fun s => s.name == m.1) = some slot ∧
      slot.check m.2 = .ok () := by
  induction passes with
  | nil => exact fun m member => absurd member List.not_mem_nil
  | @cons slot slots r members check _ ih =>
    rw [List.map_cons, List.nodup_cons] at apart
    intro m member
    rcases List.mem_cons.1 member with rfl | later
    · exact ⟨slot, by rw [List.find?_cons_of_pos (by simp)], check⟩
    · obtain ⟨found, finds, passes⟩ := ih apart.2 m later
      have other : (slot.name == m.1) = false := by
        rw [beq_eq_false_iff_ne]
        intro same
        have twice : m.1 ∈ members.map Prod.fst := List.mem_map_of_mem later
        rw [← same] at twice
        exact apart.1 twice
      exact ⟨found, by rw [List.find?_cons, other, finds], passes⟩

/-- The members as they stand in a tree. -/
def asMembers (members : List (String × Reading)) : List (Option String × Reading) :=
  members.map fun m => (some m.1, m.2)

/-- Members that each find their slot and pass its check are without fault. -/
theorem checkMembers_eq_ok {slots : List Slot} {members : List (String × Reading)}
    (finds : ∀ m ∈ members, ∃ slot, slots.find? (fun s => s.name == m.1) = some slot ∧
      slot.check m.2 = .ok ()) (apart : (members.map Prod.fst).Nodup) {seen : List String}
    (unseen : ∀ m ∈ members, m.1 ∉ seen) :
    checkMembers slots seen (asMembers members) true = .ok () := by
  induction members generalizing seen with
  | nil => rfl
  | cons m members ih =>
    obtain ⟨slot, found, check⟩ := finds m List.mem_cons_self
    rw [List.map_cons, List.nodup_cons] at apart
    have fresh : seen.contains m.1 = false := by
      simpa using unseen m List.mem_cons_self
    have unseen' : ∀ n ∈ members, n.1 ∉ m.1 :: seen := fun n later repeated => by
      rcases List.mem_cons.1 repeated with same | old
      · exact apart.1 (same ▸ List.mem_map_of_mem later)
      · exact unseen n (List.mem_cons_of_mem _ later) old
    have others := ih (fun n later => finds n (List.mem_cons_of_mem _ later)) apart.2 unseen'
    rw [asMembers, List.map_cons, checkMembers, found]
    simp only [fresh, check]
    exact others

theorem lookup_asMembers {members : List (String × Reading)}
    (apart : (members.map Prod.fst).Nodup) :
    ∀ m ∈ members, (asMembers members).lookup (some m.1) = some m.2 := by
  induction members with
  | nil => exact fun m member => absurd member List.not_mem_nil
  | cons n members ih =>
    rw [List.map_cons, List.nodup_cons] at apart
    intro m member
    rw [asMembers, List.map_cons, List.lookup_cons]
    rcases List.mem_cons.1 member with rfl | later
    · rw [beq_self_eq_true]
    · have other : (some m.1 == some n.1) = false := by
        rw [beq_eq_false_iff_ne]
        intro same
        exact apart.1 (Option.some.inj same ▸ List.mem_map_of_mem later)
      rw [other]
      exact ih apart.2 m later

/-- The record reads the value from these members. -/
structure Reads {α : Type} (record : Record α) (members : List (String × Reading)) (a : α) :
    Prop where
  passes : Passes record.slots members
  builds : ∀ look : String → Option Reading, (∀ m ∈ members, look m.1 = some m.2) →
    record.build look = .ok a

namespace Reads

variable {α β : Type} {members more : List (String × Reading)}

theorem required {name : String} {d : Decoder α} {r : Reading} {a : α} (h : d r = .ok a) :
    Reads (.required name d) [(name, r)] a where
  passes := .cons (by simp only [h]; rfl) .nil
  builds look found := by
    have here := found _ List.mem_cons_self
    simp only [Record.required, here, h]

theorem optional {name : String} {d : Decoder α} {r : Reading} {a : Option α}
    (h : d.nullable r = .ok a) : Reads (.optional name d) [(name, r)] a where
  passes := .cons (by simp only [h]; rfl) .nil
  builds look found := by
    have here := found _ List.mem_cons_self
    simp only [Record.optional, here, h]

theorem defaulted {name : String} {d : Decoder α} {absent : α} {r : Reading} {a : α}
    (h : d r = .ok a) : Reads (.defaulted name d absent) [(name, r)] a where
  passes := .cons (by simp only [h]; rfl) .nil
  builds look found := by
    have here := found _ List.mem_cons_self
    simp only [Record.defaulted, here, h]

theorem map {record : Record α} {a : α} (f : α → β) (h : Reads record members a) :
    Reads (f <$> record) members (f a) where
  passes := h.passes
  builds look found := by
    show (record.build look).map f = _
    rw [h.builds look found]
    rfl

theorem seq {fs : Record (α → β)} {record : Record α} {f : α → β} {a : α} (first : Reads fs members f)
    (second : Reads record more a) : Reads (fs <*> record) (members ++ more) (f a) where
  passes := first.passes.append second.passes
  builds look found := by
    show (fs.build look >>= fun g => (record.build look).map g) = _
    rw [first.builds look fun m member => found m (List.mem_append_left _ member),
      second.builds look fun m member => found m (List.mem_append_right _ member)]
    rfl

/-- **A record whose fields have different names reads back.** -/
theorem read {record : Record α} {a : α} (h : Reads record members a)
    (apart : (members.map Prod.fst).Nodup) :
    record.read (.object (asMembers members) true) = .ok a := by
  have unseen : ∀ m ∈ members, m.1 ∉ ([] : List String) := fun _ _ => List.not_mem_nil
  have fine := checkMembers_eq_ok (h.passes.find apart) apart unseen
  have built := h.builds (fun name => (asMembers members).lookup (some name))
    (lookup_asMembers apart)
  rw [Record.read, fine, ← built]
  rfl

end Reads

end Record

end Couponry.Json
