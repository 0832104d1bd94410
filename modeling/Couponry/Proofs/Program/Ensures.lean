import Couponry.Program

/-!
# What a run ensures

A program that is run by itself, on a state that answers its calls one after another: `Ensures` says of
its value and of the state after it what holds, given the state before. One program after another is
one statement inside the other, so each function of a program has one lemma, and callers use it by name.
-/

namespace Couponry.Program

variable {S T : Signature} {α β σ : Type} {h : (c : S.Call) → σ → S.Answer c × σ}

/-- The run from this state gives a value and a state with the property. -/
def Ensures (h : (c : S.Call) → σ → S.Answer c × σ) (p : Program S α) (Q : α → σ → Prop) (s : σ) :
    Prop :=
  Q (p.run h s).1 (p.run h s).2

theorem Ensures.mono {p : Program S α} {Q R : α → σ → Prop} {s : σ} (ensures : p.Ensures h Q s)
    (weaker : ∀ a s', Q a s' → R a s') : p.Ensures h R s :=
  weaker _ _ ensures

/-- One program after another. -/
theorem ensures_bind {p : Program S α} {f : α → Program S β} {Q : β → σ → Prop} {s : σ} :
    (p >>= f).Ensures h Q s ↔ p.Ensures h (fun a => (f a).Ensures h Q) s := by
  rw [Ensures, run_bind]
  rfl

/-- What comes first is known by its own lemma. -/
theorem Ensures.bind {p : Program S α} {f : α → Program S β} {P : α → σ → Prop}
    {Q : β → σ → Prop} {s : σ} (first : p.Ensures h P s)
    (second : ∀ a s', P a s' → (f a).Ensures h Q s') : (p >>= f).Ensures h Q s :=
  ensures_bind.2 (second _ _ first)

/-- Calls that are answered by programs are answered by their runs. -/
theorem ensures_via {g : (c : S.Call) → Program T (S.Answer c)}
    {k : (c : T.Call) → σ → T.Answer c × σ} {p : Program S α} {Q : α → σ → Prop} {s : σ} :
    (p.via g).Ensures k Q s ↔ p.Ensures (fun c => (g c).run k) Q s := by
  rw [Ensures, run_via]
  rfl

end Couponry.Program
