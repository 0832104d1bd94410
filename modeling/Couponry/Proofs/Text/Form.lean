import Couponry.Proofs.Text.Percent
import Couponry.Text.Form

/-!
# Splitting and joining

Parts that do not hold the separator are found again between the separators, and so are the pairs of
a query whose names and values need no encoding. What is found between the separators, joined by them, is
the text again.
-/

namespace Couponry.Text.Form

section Split

variable {separator : Char}

theorem splitOn_of_not_mem {part : List Char} (free : separator ∉ part) :
    splitOn separator part = [part] := by
  induction part with
  | nil => rfl
  | cons c part ih =>
    rw [List.mem_cons, not_or] at free
    rw [splitOn, if_neg (Ne.symm free.1), ih free.2]

theorem splitOn_append {part : List Char} (free : separator ∉ part) (rest : List Char) :
    splitOn separator (part ++ separator :: rest) = part :: splitOn separator rest := by
  induction part with
  | nil => rw [List.nil_append, splitOn, if_pos rfl]
  | cons c part ih =>
    rw [List.mem_cons, not_or] at free
    rw [List.cons_append, splitOn, if_neg (Ne.symm free.1), ih free.2]

/-- **Splitting undoes joining.** -/
theorem splitOn_join {part : List Char} {parts : List (List Char)} (free : separator ∉ part)
    (frees : ∀ p ∈ parts, separator ∉ p) :
    splitOn separator (part ++ parts.flatMap fun p => separator :: p) = part :: parts := by
  induction parts generalizing part with
  | nil => rw [List.flatMap_nil, List.append_nil, splitOn_of_not_mem free]
  | cons next parts ih =>
    rw [List.flatMap_cons, List.cons_append, splitOn_append free,
      ih (frees next List.mem_cons_self) fun p later => frees p (List.mem_cons_of_mem _ later)]

theorem not_mem_splitOn {cs part : List Char} (h : part ∈ splitOn separator cs) : separator ∉ part := by
  induction cs generalizing part with
  | nil =>
    rw [splitOn, List.mem_singleton] at h
    rw [h]
    exact List.not_mem_nil
  | cons c cs ih =>
    rw [splitOn] at h
    split at h
    · rcases List.mem_cons.1 h with rfl | later
      · exact List.not_mem_nil
      · exact ih later
    · next other =>
      split at h
      · next first others split =>
        rw [split] at ih
        rcases List.mem_cons.1 h with rfl | later
        · rw [List.mem_cons, not_or]
          exact ⟨Ne.symm other, ih List.mem_cons_self⟩
        · exact ih (List.mem_cons_of_mem _ later)
      · rw [List.mem_singleton.1 h, List.mem_singleton]
        exact Ne.symm other

theorem splitOn_ne_nil (cs : List Char) : splitOn separator cs ≠ [] := by
  cases cs with
  | nil => exact List.cons_ne_nil _ _
  | cons c cs =>
    rw [splitOn]
    split
    · exact List.cons_ne_nil _ _
    · split <;> exact List.cons_ne_nil _ _

/-- **Joining undoes splitting.** -/
theorem eq_join_of_splitOn {cs part : List Char} {parts : List (List Char)}
    (parted : splitOn separator cs = part :: parts) :
    cs = part ++ parts.flatMap fun p => separator :: p := by
  induction cs generalizing part parts with
  | nil =>
    cases parted
    rfl
  | cons c cs ih =>
    cases rest : splitOn separator cs with
    | nil => exact absurd rest (splitOn_ne_nil cs)
    | cons first others =>
      rw [splitOn, rest] at parted
      split at parted
      · next same =>
        cases parted
        rw [List.nil_append, List.flatMap_cons, List.cons_append, ← ih rest, same]
      · cases parted
        rw [List.cons_append, ← ih rest]

end Split

/-- A text that needs no encoding stands for itself. -/
theorem decode_of_plain {cs : List Char} (percent : '%' ∉ cs) (plus : '+' ∉ cs) :
    decode cs = some (String.ofList cs) := by
  have same : (cs.map fun c => if c = '+' then ' ' else c) = cs := by
    refine (List.map_congr_left fun c member => if_neg ?_).trans (List.map_id cs)
    rintro rfl
    exact plus member
  rw [decode, same, Percent.decode_of_plain percent]

/-- A name and a value that need no encoding, as they stand in a query. -/
structure Plain (name value : List Char) : Prop where
  name : ∀ c ∈ name, c ≠ '%' ∧ c ≠ '+' ∧ c ≠ '&' ∧ c ≠ '#' ∧ c ≠ '='
  value : ∀ c ∈ value, c ≠ '%' ∧ c ≠ '+' ∧ c ≠ '&' ∧ c ≠ '#'

namespace Plain

variable {name value : List Char}

theorem pair (h : Plain name value) :
    pair (name ++ '=' :: value) = (some (String.ofList name), some (String.ofList value)) := by
  have notEqual : ∀ c ∈ name, (c != '=') = true := fun c member => by simp [(h.name c member).2.2.2.2]
  have before : (name ++ '=' :: value).takeWhile (· != '=') = name := by
    rw [List.takeWhile_append_of_pos notEqual]
    simp
  have after : (name ++ '=' :: value).dropWhile (· != '=') = '=' :: value := by
    rw [List.dropWhile_append_of_pos notEqual]
    simp
  rw [Form.pair, before, after, List.drop_one, List.tail_cons,
    decode_of_plain (fun member => (h.name _ member).1 rfl) fun member => (h.name _ member).2.1 rfl,
    decode_of_plain (fun member => (h.value _ member).1 rfl) fun member => (h.value _ member).2.1 rfl]

theorem not_mem (h : Plain name value) : '&' ∉ name ++ '=' :: value := by
  intro member
  rcases List.mem_append.1 member with first | second
  · exact (h.name _ first).2.2.1 rfl
  · rcases List.mem_cons.1 second with equal | third
    · cases equal
    · exact (h.value _ third).2.2.1 rfl

/-- The pair ends no query. -/
theorem whole (h : Plain name value) : '#' ∉ name ++ '=' :: value := by
  intro member
  rcases List.mem_append.1 member with first | second
  · exact (h.name _ first).2.2.2.1 rfl
  · rcases List.mem_cons.1 second with equal | third
    · cases equal
    · exact (h.value _ third).2.2.2 rfl

end Plain

/-- **The pairs of a query read back**, if none of them needs encoding. -/
theorem pairs_join {first : List Char × List Char} {others : List (List Char × List Char)}
    (plain : ∀ p ∈ first :: others, Plain p.1 p.2) :
    pairs ((first.1 ++ '=' :: first.2) ++ others.flatMap fun p => '&' :: (p.1 ++ '=' :: p.2)) =
      (first :: others).map fun p => (some (String.ofList p.1), some (String.ofList p.2)) := by
  have split : splitOn '&' ((first.1 ++ '=' :: first.2) ++
      (others.map fun p => p.1 ++ '=' :: p.2).flatMap fun p => '&' :: p) =
        (first.1 ++ '=' :: first.2) :: others.map fun p => p.1 ++ '=' :: p.2 := by
    refine splitOn_join (plain first List.mem_cons_self).not_mem fun q member => ?_
    obtain ⟨p, later, rfl⟩ := List.mem_map.1 member
    exact (plain p (List.mem_cons_of_mem _ later)).not_mem
  rw [List.flatMap_map] at split
  have kept : (first :: others).map (fun p => p.1 ++ '=' :: p.2) =
      ((first :: others).map (fun p => p.1 ++ '=' :: p.2)).filter fun part => !part.isEmpty := by
    refine (List.filter_eq_self.2 ?_).symm
    intro part member
    obtain ⟨p, -, rfl⟩ := List.mem_map.1 member
    cases p.1 <;> rfl
  rw [pairs, split]
  rw [List.map_cons] at kept
  rw [← kept, ← List.map_cons (f := fun p : List Char × List Char => p.1 ++ '=' :: p.2), List.map_map]
  exact List.map_congr_left fun p member => (plain p member).pair

end Couponry.Text.Form
