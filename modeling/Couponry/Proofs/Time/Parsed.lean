import Couponry.Proofs.Time.Rfc3339

/-!
# What a timestamp gives

An instant that is read can be written. Its nanoseconds are those of a second, or of the sixtieth
second of a minute, and since offsets are whole minutes none moves it away from there; `parse_gives`
is what `parse_format` asks for.
-/

namespace Couponry.Time.Rfc3339

open Couponry.Text

/-! ## What a step of reading gives -/

/-- Every value the step gives has the property. -/
def Gives {α : Type} (scan : Scan α) (P : α → Prop) : Prop :=
  ∀ cs a rest, scan.run cs = some (a, rest) → P a

namespace Gives

variable {α β : Type} {P : α → Prop} {Q : β → Prop}

theorem pure {a : α} (h : P a) : Gives (Pure.pure a) P := by
  intro cs b rest given
  cases given
  exact h

theorem failure : Gives (failure : Scan α) P := by
  intro cs a rest given
  cases given

/-- Any step gives something. -/
theorem any (scan : Scan α) : Gives scan fun _ => True :=
  fun _ _ _ _ => trivial

theorem bind {scan : Scan α} {next : α → Scan β} (first : Gives scan P)
    (then' : ∀ a, P a → Gives (next a) Q) : Gives (scan >>= next) Q := by
  intro cs b rest given
  rw [StateT.run_bind] at given
  obtain ⟨⟨a, rest'⟩, gives, later⟩ := Option.bind_eq_some_iff.1 given
  exact then' a (first cs a rest' gives) rest' b rest later

end Gives

/-! ## Times of day -/

/-- The digits after the point are less than a whole second. -/
theorem nanos_lt {ds : List Char} (digits : ∀ c ∈ ds, c.isDigit = true) : nanos ds < 1000000000 := by
  have first : ofDigits (ds.take 9) < 10 ^ (ds.take 9).length :=
    ofDigits_lt fun c member => digits c (List.mem_of_mem_take member)
  have nine : (ds.take 9).length + (9 - ds.length) = 9 := by
    rw [List.length_take]
    omega
  have scaled : nanos ds < 10 ^ (ds.take 9).length * 10 ^ (9 - ds.length) :=
    Nat.mul_lt_mul_of_pos_right first (Nat.pow_pos (by decide))
  rw [← Nat.pow_add, nine] at scaled
  exact scaled

theorem fraction_gives : Gives fraction fun f => f < 1000000000 := by
  refine .bind (.any get) fun cs _ => ?_
  split
  · next rest =>
    have digits : ∀ c ∈ rest.takeWhile Char.isDigit, c.isDigit = true :=
      List.all_eq_true.1 List.all_takeWhile
    dsimp only
    split
    · exact .bind .failure fun _ (none : False) => none.elim
    · exact .bind (.any _) fun _ _ => .pure (nanos_lt digits)
  · exact .pure (by decide)

/-- The nanoseconds are those of a second, or of a leap second at the end of a minute. -/
theorem clock_gives :
    Gives clock fun (s, f) => f < 1000000000 ∨ f < 2000000000 ∧ s % 60 = 59 := by
  refine .bind (.any _) fun h _ => .bind (.any _) fun _ _ => .bind (.any _) fun m _ =>
    .bind (.any _) fun _ _ => .bind (.any _) fun s _ => .bind fraction_gives fun f part => ?_
  split
  · split
    · exact .pure (.inr ⟨by omega, by omega⟩)
    · exact .pure (.inl part)
  · exact .failure

/-! ## Offsets -/

/-- An offset is one of whole minutes. -/
theorem offsetSeconds_gives : Gives offsetSeconds fun o => o % 60 = 0 := by
  refine .bind (.any _) fun h _ => .bind (.any _) fun _ _ => .bind (.any _) fun m _ => ?_
  split
  · exact .pure (by omega)
  · exact .failure

theorem offset_gives : Gives offset fun o => o % 60 = 0 := by
  have minutes : Gives offsetSeconds fun o => (o : Int) % 60 = 0 := fun cs o rest given => by
    have whole := offsetSeconds_gives cs o rest given
    omega
  refine .bind (.any _) fun _ _ => .bind (.any get) fun cs _ => ?_
  split
  · exact .bind (.any _) fun _ _ => .pure (by decide)
  · exact .bind (.any _) fun _ _ => .pure (by decide)
  · exact .bind (.any _) fun _ _ => .bind minutes fun o whole => .pure whole
  · exact .bind (.any _) fun _ _ => .bind minutes fun o whole => .pure (by omega)
  · exact .bind (.any _) fun _ _ => .bind minutes fun o whole => .pure (by omega)
  · split
    · exact .bind (.any _) fun _ _ => .pure (by decide)
    · exact .failure
  · exact .failure

/-! ## Timestamps -/

theorem timestamp_gives :
    Gives timestamp fun t => t.Proper ∧ Date.yearInRange t.date.year = true := by
  refine .bind (.any _) fun d _ => .bind (.any _) fun _ _ => .bind clock_gives fun (s, f) part =>
    .bind offset_gives fun o minutes => .bind (.any _) fun _ _ => ?_
  dsimp only
  split
  · next range =>
    refine .pure ⟨?_, range.2⟩
    have second : (Instant.ofDate d (s - o) f).second % 60 = (s : Int) % 60 := by
      show ((d.dayNumber - Date.epoch) * 86400 + (s - o)) % 60 = _
      omega
    rcases part with plain | ⟨leap, last⟩
    · exact .inl plain
    · exact .inr ⟨leap, by omega⟩
  · exact .failure

/-- **An instant that is read can be written** and read again. -/
theorem parse_gives {s : String} {t : Instant} (parsed : parse s = some t) :
    t.Proper ∧ Date.yearInRange t.date.year = true := by
  rw [parse] at parsed
  split at parsed
  · next given =>
    cases parsed
    exact timestamp_gives _ _ _ given
  · cases parsed

end Couponry.Time.Rfc3339
