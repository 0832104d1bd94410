/-!
# Lists with keys

Rows of a table stand in the order in which they were made, and are found by a key. What `lookup`
finds after a change of the list, as `Table.get?` says it of a finite map.
-/

namespace Couponry.Keyed

variable {α κ : Type} [DecidableEq κ] {key : α → κ} {l : List α} {k : κ} {a : α}

/-- The first entry with a key. -/
def lookup (key : α → κ) (l : List α) (k : κ) : Option α :=
  l.find? fun a => decide (key a = k)

theorem key_of_lookup (found : lookup key l k = some a) : key a = k := by
  simpa using List.find?_some found

theorem mem_of_lookup (found : lookup key l k = some a) : a ∈ l :=
  List.mem_of_find?_eq_some found

theorem lookup_eq_none : lookup key l k = none ↔ k ∉ l.map key := by
  simp only [lookup, List.find?_eq_none, decide_eq_true_eq, List.mem_map, not_exists, not_and]

theorem lookup_cons (a : α) (l : List α) (k : κ) :
    lookup key (a :: l) k = if key a = k then some a else lookup key l k := by
  by_cases here : key a = k <;> simp [lookup, here]

/-- Where no key occurs twice, an entry is what its key finds. -/
theorem lookup_of_mem (distinct : (l.map key).Nodup) (stored : a ∈ l) :
    lookup key l (key a) = some a := by
  induction l with
  | nil => cases stored
  | cons b l ih =>
    rw [List.map_cons, List.nodup_cons] at distinct
    rw [lookup_cons]
    rcases List.mem_cons.1 stored with rfl | stored
    · rw [if_pos rfl]
    · rw [if_neg, ih distinct.2 stored]
      intro same
      exact distinct.1 (same ▸ List.mem_map_of_mem stored)

/-- One more entry under a key that is not taken. -/
theorem lookup_append {new : κ} (named : key a = new) (free : lookup key l new = none) (k : κ) :
    lookup key (l ++ [a]) k = if k = new then some a else lookup key l k := by
  rw [lookup, List.find?_append]
  by_cases same : k = new
  · subst same
    rw [show l.find? _ = none from free]
    simp [named]
  · simp [lookup, named, Ne.symm same, same]

theorem nodup_append {new : κ} (named : key a = new) (distinct : (l.map key).Nodup)
    (free : lookup key l new = none) : ((l ++ [a]).map key).Nodup := by
  rw [List.map_append, List.nodup_append]
  refine ⟨distinct, by simp, ?_⟩
  intro j taken k last same
  rw [List.map_singleton, List.mem_singleton, named] at last
  exact lookup_eq_none.1 free (last ▸ same ▸ taken)

omit [DecidableEq κ] in
theorem nodup_filter (distinct : (l.map key).Nodup) (test : α → Bool) :
    ((l.filter test).map key).Nodup :=
  distinct.sublist (List.filter_sublist.map key)

/-- The entries whose keys pass a test. -/
theorem lookup_filter (key : α → κ) (test : κ → Bool) (l : List α) (k : κ) :
    lookup key (l.filter fun a => test (key a)) k = if test k then lookup key l k else none := by
  induction l with
  | nil => simp [lookup]
  | cons a l ih =>
    by_cases kept : test (key a) <;> by_cases here : key a = k <;>
      simp_all [lookup_cons]

/-- Entries that change under their keys. -/
theorem lookup_map {change : α → α} (keeps : ∀ a, key (change a) = key a) (l : List α) (k : κ) :
    lookup key (l.map change) k = (lookup key l k).map change := by
  induction l with
  | nil => rfl
  | cons a l ih =>
    rw [List.map_cons, lookup_cons, lookup_cons, keeps, ih]
    split <;> rfl

/-- Where no key occurs twice, at most one entry has a key. -/
theorem filter_key (distinct : (l.map key).Nodup) (k : κ) :
    l.filter (fun a => decide (key a = k)) = (lookup key l k).toList := by
  induction l with
  | nil => rfl
  | cons a l ih =>
    rw [List.map_cons, List.nodup_cons] at distinct
    rw [lookup_cons]
    by_cases here : key a = k
    · have rest : lookup key l k = none := lookup_eq_none.2 (here ▸ distinct.1)
      rw [List.filter_cons_of_pos (by simpa using here), if_pos here, ih distinct.2, rest]
      rfl
    · rw [List.filter_cons_of_neg (by simpa using here), if_neg here, ih distinct.2]

/-- How many entries with a key pass a test. -/
theorem countP_key (distinct : (l.map key).Nodup) (k : κ) (test : α → Bool) :
    l.countP (fun a => decide (key a = k) && test a) =
      if (lookup key l k).any test then 1 else 0 := by
  have narrowed : l.filter (fun a => decide (key a = k) && test a) =
      (lookup key l k).toList.filter test := by
    rw [← filter_key distinct, List.filter_filter]
    simp only [Bool.and_comm]
  rw [List.countP_eq_length_filter, narrowed]
  cases lookup key l k with
  | none => rfl
  | some a => cases passes : test a <;> simp [passes]

/-- There is an entry with a key. -/
theorem any_key (l : List α) (k : κ) :
    l.any (fun a => decide (key a = k)) = (lookup key l k).isSome := by
  rw [lookup, List.isSome_find?]

/-- Changes the entries with a key that pass a test. -/
def changeAt (key : α → κ) (test : α → Bool) (change : α → α) (l : List α) (k : κ) : List α :=
  l.map fun a => if decide (key a = k) && test a then change a else a

section ChangeAt

variable {test : α → Bool} {change : α → α} (keeps : ∀ a, key (change a) = key a)
include keeps

theorem lookup_changeAt (found : lookup key l k = some a) (passes : test a = true) (j : κ) :
    lookup key (changeAt key test change l k) j =
      if j = k then some (change a) else lookup key l j := by
  rw [changeAt, lookup_map]
  · by_cases same : j = k
    · subst same
      rw [found, if_pos rfl, Option.map_some, key_of_lookup found, passes]
      simp
    · rw [if_neg same]
      cases other : lookup key l j with
      | none => rfl
      | some b =>
        have here : key b ≠ k := fun hit => same ((key_of_lookup other).symm.trans hit)
        simp [here]
  · intro a
    split
    · exact keeps a
    · rfl

/-- A change under the keys leaves the keys. -/
theorem keys_changeAt (l : List α) (k : κ) : (changeAt key test change l k).map key = l.map key := by
  rw [changeAt, List.map_map]
  refine List.map_congr_left fun a _ => ?_
  simp only [Function.comp_apply]
  split
  · exact keeps a
  · rfl

end ChangeAt

/-- Where the entry with a key does not pass the test, nothing changes. -/
theorem changeAt_of_none {test : α → Bool} {change : α → α} (distinct : (l.map key).Nodup)
    (none : (lookup key l k).any test = false) : changeAt key test change l k = l := by
  refine (List.map_congr_left fun a stored => ?_).trans (List.map_id l)
  by_cases here : key a = k
  · rw [← here, lookup_of_mem distinct stored] at none
    simp only [Option.any_some] at none
    simp [none]
  · simp [here]

end Couponry.Keyed
