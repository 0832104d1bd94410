/-!
# Tables

Finite maps as lists of entries with distinct keys. `get?_insert` and its companions say what each
operation does to what `get?` finds; nothing else about a table shows in an answer.
-/

namespace Couponry

/-- A finite map, given by its entries. -/
structure Table (κ α : Type) where
  entries : List (κ × α)
  deriving DecidableEq, Repr

namespace Table

variable {κ α : Type} [DecidableEq κ]

/-- The map without entries. -/
def empty : Table κ α := ⟨[]⟩

instance : Inhabited (Table κ α) := ⟨empty⟩

/-- The value of the first entry with key `k`. -/
def find (k : κ) : List (κ × α) → Option α
  | [] => none
  | (l, a) :: rest => if k = l then some a else find k rest

/-- The entries without those of key `k`. -/
def remove (k : κ) (entries : List (κ × α)) : List (κ × α) :=
  entries.filter fun e => decide (e.1 ≠ k)

/-- The value of a key. -/
def get? (t : Table κ α) (k : κ) : Option α :=
  find k t.entries

/-- The key has a value. -/
def contains (t : Table κ α) (k : κ) : Bool :=
  (t.get? k).isSome

/-- The table with `a` as the value of `k`. -/
def insert (t : Table κ α) (k : κ) (a : α) : Table κ α :=
  ⟨(k, a) :: remove k t.entries⟩

/-- The table without a value of `k`. -/
def erase (t : Table κ α) (k : κ) : Table κ α :=
  ⟨remove k t.entries⟩

/-- The entries whose keys pass the test. -/
def filterKeys (t : Table κ α) (test : κ → Bool) : Table κ α :=
  ⟨t.entries.filter fun e => test e.1⟩

@[simp] theorem get?_empty (k : κ) : (empty : Table κ α).get? k = none := rfl

theorem find_filter (test : κ → Bool) (k : κ) (entries : List (κ × α)) :
    find k (entries.filter fun e => test e.1) = if test k then find k entries else none := by
  induction entries with
  | nil => simp [find]
  | cons e rest ih =>
    obtain ⟨l, a⟩ := e
    by_cases hl : test l <;> by_cases hk : k = l <;> simp_all [find]

@[simp] theorem get?_filterKeys (t : Table κ α) (test : κ → Bool) (k : κ) :
    (t.filterKeys test).get? k = if test k then t.get? k else none :=
  find_filter test k t.entries

@[simp] theorem get?_erase (t : Table κ α) (k l : κ) :
    (t.erase k).get? l = if l = k then none else t.get? l := by
  show find l (remove k t.entries) = _
  rw [remove, find_filter fun l => decide (l ≠ k)]
  by_cases h : l = k <;> simp [h, get?]

@[simp] theorem get?_insert (t : Table κ α) (k l : κ) (a : α) :
    (t.insert k a).get? l = if l = k then some a else t.get? l := by
  show (if l = k then some a else find l (remove k t.entries)) = _
  by_cases h : l = k
  · simp [h]
  · rw [if_neg h, if_neg h, show find l (remove k t.entries) = _ from get?_erase t k l, if_neg h]

/-- What was set and is taken away again leaves nothing. -/
theorem erase_insert (t : Table κ α) (k : κ) (a : α) : (t.insert k a).erase k = t.erase k := by
  simp [erase, insert, remove]

section Every

variable {t : Table κ α} {P : κ → α → Prop} (every : ∀ l b, t.get? l = some b → P l b)
include every

/-- What holds of every entry and of a new one holds of every entry after the insertion. -/
theorem forall_insert {k : κ} {a : α} (new : P k a) (l : κ) (b : α)
    (found : (t.insert k a).get? l = some b) : P l b := by
  rw [get?_insert] at found
  split at found
  · next same =>
    cases found
    exact same ▸ new
  · exact every l b found

theorem forall_filterKeys (test : κ → Bool) (l : κ) (b : α)
    (found : (t.filterKeys test).get? l = some b) : P l b := by
  rw [get?_filterKeys] at found
  split at found
  · exact every l b found
  · cases found

end Every

/-- A value is replaced by one that looks the same. -/
theorem map_get?_insert {β : Type} {t : Table κ α} {k : κ} {a b : α} {f : α → β} (stored : t.get? k = some b)
    (same : f a = f b) (l : κ) : ((t.insert k a).get? l).map f = (t.get? l).map f := by
  rw [get?_insert]
  split
  · next at_ => rw [at_, stored, Option.map_some, Option.map_some, same]
  · rfl

end Table

end Couponry
