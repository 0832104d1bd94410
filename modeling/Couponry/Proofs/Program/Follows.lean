import Couponry.Program

/-!
# Programs that follow a course

A course has stages, and steps from stage to stage that are labelled by a call and its answer. A
program follows a course from a stage if, whatever it is answered, every call that it makes is a step
of the course, and it ends with a value that goes with the stage it has come to. The answers are
those of no particular state, so what is shown of a program here holds under any interleaving.
-/

namespace Couponry.Program

variable {S T : Signature} {Stage α β : Type}

/-- The program follows the course with these steps from a stage on, up to one of these ends. -/
def Follows (step : Stage → (c : S.Call) → S.Answer c → Stage → Prop) (ends : Stage → α → Prop) :
    Program S α → Stage → Prop
  | .done a, x => ends x a
  | .ask c next, x => ∀ answer, ∃ y, step x c answer y ∧ (next answer).Follows step ends y

/-- Answering the calls of one program after another. -/
theorem via_bind (h : (c : S.Call) → Program T (S.Answer c)) (p : Program S α)
    (f : α → Program S β) : (p >>= f).via h = p.via h >>= fun a => (f a).via h := by
  induction p with
  | done a => rfl
  | ask c next ih =>
    show (h c >>= fun answer => (next answer >>= f).via h) = _
    simp only [ih]
    exact (bind_assoc _ _ _).symm

/-- Running one program after another, with their calls answered by programs. -/
theorem run_via_bind {σ : Type} (g : (c : S.Call) → Program T (S.Answer c))
    (h : (c : T.Call) → σ → T.Answer c × σ) (p : Program S α) (f : α → Program S β) (s : σ) :
    ((p >>= f).via g).run h s = ((f ((p.via g).run h s).1).via g).run h ((p.via g).run h s).2 := by
  rw [via_bind, run_bind]

variable {step : Stage → (c : S.Call) → S.Answer c → Stage → Prop}

/-- What holds at every end. -/
theorem Follows.mono {ends ends' : Stage → α → Prop} {p : Program S α} {x : Stage}
    (follows : p.Follows step ends x) (weaker : ∀ y a, ends y a → ends' y a) :
    p.Follows step ends' x := by
  induction p generalizing x with
  | done a => exact weaker x a follows
  | ask c next ih =>
    intro answer
    obtain ⟨y, go, rest⟩ := follows answer
    exact ⟨y, go, ih answer rest⟩

/-- One program after another. -/
theorem Follows.bind {mid : Stage → α → Prop} {ends : Stage → β → Prop} {p : Program S α}
    {f : α → Program S β} {x : Stage} (first : p.Follows step mid x)
    (second : ∀ y a, mid y a → (f a).Follows step ends y) : (p >>= f).Follows step ends x := by
  induction p generalizing x with
  | done a => exact second x a first
  | ask c next ih =>
    intro answer
    obtain ⟨y, go, rest⟩ := first answer
    exact ⟨y, go, ih answer rest⟩

/-- One program after another, with their calls answered by programs. -/
theorem Follows.via_bind {h : (c : T.Call) → Program S (T.Answer c)} {mid : Stage → α → Prop}
    {ends : Stage → β → Prop} {p : Program T α} {f : α → Program T β} {x : Stage}
    (first : (p.via h).Follows step mid x)
    (second : ∀ y a, mid y a → ((f a).via h).Follows step ends y) :
    ((p >>= f).via h).Follows step ends x := by
  rw [Program.via_bind]
  exact first.bind second

/-- **What the steps of the course keep, a run keeps.** It ends where the course ends, with the value that
goes with that stage. -/
theorem Follows.run {σ : Type} {h : (c : S.Call) → σ → S.Answer c × σ} {ends : Stage → α → Prop}
    {p : Program S α} {x : Stage} (follows : p.Follows step ends x) (Inv : Stage → σ → Prop)
    (kept : ∀ {x c y s}, Inv x s → step x c (h c s).1 y → Inv y (h c s).2) {s : σ} (start : Inv x s) :
    ∃ y, ends y (p.run h s).1 ∧ Inv y (p.run h s).2 := by
  induction p generalizing x s with
  | done a => exact ⟨x, follows, start⟩
  | ask c next ih =>
    obtain ⟨y, go, rest⟩ := follows (h c s).1
    exact ih _ rest (kept start go)

end Couponry.Program
