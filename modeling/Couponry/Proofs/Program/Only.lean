import Couponry.Proofs.Program.Follows

/-!
# Programs that make calls of one kind

What all the calls of a program have in common, whatever it is answered. If every such call changes a
state in one way, so does every run of the program.
-/

namespace Couponry.Program

variable {S T : Signature} {α β : Type} {P : S.Call → Prop}

/-- The program makes calls of one kind only. -/
def Only (P : S.Call → Prop) : Program S α → Prop
  | .done _ => True
  | .ask c next => P c ∧ ∀ answer, (next answer).Only P

theorem Only.bind {p : Program S α} {f : α → Program S β} (first : p.Only P)
    (second : ∀ a, (f a).Only P) : (p >>= f).Only P := by
  induction p with
  | done a => exact second a
  | ask c next ih => exact ⟨first.1, fun answer => ih answer (first.2 answer)⟩

/-- Calls of one kind, answered by calls of one kind. -/
theorem Only.via {Q : T.Call → Prop} {h : (c : S.Call) → Program T (S.Answer c)} {p : Program S α}
    (only : p.Only P) (answered : ∀ c, P c → (h c).Only Q) : (p.via h).Only Q := by
  induction p with
  | done a => trivial
  | ask c next ih => exact (answered c only.1).bind fun answer => ih answer (only.2 answer)

/-- Calls that leave every stage as it is lead nowhere. -/
theorem Only.follows {Stage : Type} {step : Stage → (c : S.Call) → S.Answer c → Stage → Prop}
    {p : Program S α} {x : Stage} (only : p.Only P) (stays : ∀ c answer, P c → step x c answer x) :
    p.Follows step (fun y _ => y = x) x := by
  induction p with
  | done a => rfl
  | ask c next ih => exact fun answer => ⟨x, stays c answer only.1, ih answer (only.2 answer)⟩

/-- **What every call does to the state, a run does**, if doing it twice is doing it. -/
theorem Only.run {σ : Type} {h : (c : S.Call) → σ → S.Answer c × σ} {R : σ → σ → Prop}
    (refl : ∀ s, R s s) (trans : ∀ {s s' s''}, R s s' → R s' s'' → R s s'') {p : Program S α}
    (only : p.Only P) (step : ∀ c s, P c → R s (h c s).2) (s : σ) : R s (p.run h s).2 := by
  induction p generalizing s with
  | done a => exact refl s
  | ask c next ih => exact trans (step c s only.1) (ih (h c s).1 (only.2 _) (h c s).2)

end Couponry.Program
