/-!
# Programs of calls

What a component does is a program: it asks for something, goes on with the answer, and ends with a
value. A program says nothing of who answers. `Program.via` answers the calls of one signature by
programs over another, and `Program.run` lets a state answer them. Since every call stands in the
tree, the calls of several programs can be interleaved one by one.
-/

namespace Couponry

/-- The calls that a program may make, and the type of the answer to each. -/
structure Signature where
  Call : Type
  Answer : Call → Type

/-- A program over a signature. -/
inductive Program (S : Signature) (α : Type) where
  | done (a : α)
  | ask (call : S.Call) (next : S.Answer call → Program S α)

namespace Program

variable {S T : Signature} {α β : Type}

/-- A single call. -/
def call (c : S.Call) : Program S (S.Answer c) :=
  .ask c .done

/-- One program after another. -/
def bind (p : Program S α) (f : α → Program S β) : Program S β :=
  match p with
  | .done a => f a
  | .ask c next => .ask c fun answer => (next answer).bind f

instance : Monad (Program S) where
  pure := .done
  bind := bind

/-- Answers every call by a program over another signature. -/
def via (h : (c : S.Call) → Program T (S.Answer c)) : Program S α → Program T α
  | .done a => .done a
  | .ask c next => (h c).bind fun answer => (next answer).via h

/-- Lets a state answer every call. -/
def run {σ : Type} (h : (c : S.Call) → σ → S.Answer c × σ) : Program S α → σ → α × σ
  | .done a, s => (a, s)
  | .ask c next, s =>
    let (answer, s) := h c s
    (next answer).run h s

theorem bind_assoc {γ : Type} (p : Program S α) (f : α → Program S β) (g : β → Program S γ) :
    p >>= f >>= g = p >>= fun a => f a >>= g := by
  induction p with
  | done a => rfl
  | ask c next ih => exact congrArg (Program.ask c) (funext ih)

theorem run_bind {σ : Type} (h : (c : S.Call) → σ → S.Answer c × σ) (p : Program S α)
    (f : α → Program S β) (s : σ) :
    (p >>= f).run h s = (f (p.run h s).1).run h (p.run h s).2 := by
  induction p generalizing s with
  | done a => rfl
  | ask c next ih => exact ih (h c s).1 (h c s).2

theorem run_via {σ : Type} (g : (c : S.Call) → Program T (S.Answer c))
    (h : (c : T.Call) → σ → T.Answer c × σ) (p : Program S α) (s : σ) :
    (p.via g).run h s = p.run (fun c => (g c).run h) s := by
  induction p generalizing s with
  | done a => rfl
  | ask c next ih =>
    show (g c >>= fun answer => (next answer).via g).run h s = _
    rw [run_bind, ih]
    rfl

end Program

end Couponry
