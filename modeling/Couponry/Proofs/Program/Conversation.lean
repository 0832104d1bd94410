import Couponry.Program

/-!
# Conversations

The calls that a program makes, with the answers that it gets. `Converses` speaks of all conversations of a
program at once: of whatever it may be answered, call by call, and the value with which it ends.
-/

namespace Couponry

/-- A call with its answer. -/
structure Exchange {Call : Type} (Answer : Call → Type) where
  call : Call
  answer : Answer call

namespace Program

variable {S : Signature} {σ α β : Type}

/-- The exchanges of a program with a state that answers its calls. -/
def conversation (h : (c : S.Call) → σ → S.Answer c × σ) : Program S α → σ → List (Exchange S.Answer)
  | .done _, _ => []
  | .ask c next, s => ⟨c, (h c s).1⟩ :: (next (h c s).1).conversation h (h c s).2

/-- Whatever the program is answered, this holds of the conversation and of the value at its end. -/
def Converses (ends : List (Exchange S.Answer) → α → Prop) : Program S α → Prop
  | .done a => ends [] a
  | .ask c next => ∀ answer, (next answer).Converses fun log a => ends (⟨c, answer⟩ :: log) a

theorem Converses.mono {ends ends' : List (Exchange S.Answer) → α → Prop} {p : Program S α}
    (talk : p.Converses ends) (weaker : ∀ log a, ends log a → ends' log a) : p.Converses ends' := by
  induction p generalizing ends ends' with
  | done a => exact weaker [] a talk
  | ask c next ih => exact fun answer => ih answer (talk answer) fun log a => weaker _ a

/-- One program after another: the second goes on where the first has come to. -/
theorem Converses.bind {mid : List (Exchange S.Answer) → α → Prop}
    {ends : List (Exchange S.Answer) → β → Prop} {p : Program S α} {f : α → Program S β}
    (first : p.Converses mid)
    (second : ∀ log a, mid log a → (f a).Converses fun rest b => ends (log ++ rest) b) :
    (p >>= f).Converses ends := by
  induction p generalizing mid ends with
  | done a => exact second [] a first
  | ask c next ih => exact fun answer => ih answer (first answer) fun log a => second _ a

/-- **What is said of all conversations holds of each.** -/
theorem Converses.conversation {ends : List (Exchange S.Answer) → α → Prop} {p : Program S α}
    (talk : p.Converses ends) (h : (c : S.Call) → σ → S.Answer c × σ) (s : σ) :
    ends (p.conversation h s) (p.run h s).1 := by
  induction p generalizing s ends with
  | done a => exact talk
  | ask c next ih => exact ih (h c s).1 (talk (h c s).1) (h c s).2

end Program

end Couponry
