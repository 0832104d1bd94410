import Couponry.Json.Reading
import Couponry.Proofs.Json.Token

/-!
# A written value reads back

The machine that builds the tree of a text has, after the tokens of a value, added the tree of that
value to the innermost open container, whatever is open. So the text of a value holds its tree and
nothing else, as long as no container is too deep and no number too long.
-/

namespace Couponry.Json

mutual

/-- The tree of a value. -/
def reading : Json → Reading
  | .null => .null
  | .bool b => .bool b
  | .int n => .int n
  | .text s => .text s
  | .array items => .array (itemReadings items) true
  | .object members => .object (memberReadings members) true

/-- The trees of items. -/
def itemReadings : List Json → List Reading
  | [] => []
  | v :: rest => reading v :: itemReadings rest

/-- The trees of members, with their names. -/
def memberReadings : List (String × Json) → List (Option String × Reading)
  | [] => []
  | (k, v) :: rest => (some k, reading v) :: memberReadings rest

end

namespace Reading

/-- A tree on its way, with nothing wrong so far. -/
def waiting (place : Place) (stack : List Frame) : Builder :=
  ⟨place, stack, .torn, true⟩

/-- A value may come next. -/
def Place.TakesValue (place : Place) : Prop :=
  place = .value ∨ place = .valueOrEnd

section Step

variable {stack : List Frame} {done : List Reading} {members : List (Option String × Reading)}
  {name : Option String}

/-- A container that is not too deep is closed. -/
theorem step_closeArray {place : Place} (last : place = .valueOrEnd ∨ place = .afterItem)
    (deep : stack.length < maxDepth) :
    (waiting place (.items done :: stack)).step .closeArray =
      .add stack (.array done.reverse true) := by
  rcases last with rfl | rfl <;> exact congrArg (Builder.add stack) (if_pos deep)

theorem step_closeObject {place : Place} (last : place = .nameOrEnd ∨ place = .afterMember)
    (deep : stack.length < maxDepth) :
    (waiting place (.members members name :: stack)).step .closeObject =
      .add stack (.object members.reverse true) := by
  rcases last with rfl | rfl <;> exact congrArg (Builder.add stack) (if_pos deep)

end Step

mutual

/-- **The tokens of a value add its tree.** -/
theorem foldl_tokens : ∀ (j : Json) {depth : Nat} {stack : List Frame} {place : Place},
    j.fits depth = true → stack.length + depth ≤ maxDepth → place.TakesValue →
      j.tokens.foldl Builder.step (waiting place stack) = .add stack j.reading
  | .null, _, _, _, _, _, takes => by rcases takes with rfl | rfl <;> rfl
  | .bool _, _, _, _, _, _, takes => by rcases takes with rfl | rfl <;> rfl
  | .int _, _, _, _, _, _, takes => by rcases takes with rfl | rfl <;> rfl
  | .text _, _, _, _, _, _, takes => by rcases takes with rfl | rfl <;> rfl
  | .array [], depth + 1, stack, place, _, deep, takes => by
    have opened :
        (waiting place stack).step .openArray = waiting .valueOrEnd (.items [] :: stack) := by
      rcases takes with rfl | rfl <;> rfl
    rw [tokens, List.foldl_cons, opened, List.foldl_cons, step_closeArray (.inl rfl) (by omega)]
    rfl
  | .array (v :: items), depth + 1, stack, place, small, deep, takes => by
    rw [fits, fitsItems, Bool.and_eq_true] at small
    have opened :
        (waiting place stack).step .openArray = waiting .valueOrEnd (.items [] :: stack) := by
      rcases takes with rfl | rfl <;> rfl
    have first : v.tokens.foldl Builder.step (waiting .valueOrEnd (.items [] :: stack)) =
        .add (.items [] :: stack) v.reading :=
      foldl_tokens v small.1 (by rw [List.length_cons]; omega) (.inr rfl)
    have others : (itemTokens items).foldl Builder.step
        (waiting .afterItem (.items [v.reading] :: stack)) =
        .add stack (.array ([v.reading].reverse ++ itemReadings items) true) :=
      foldl_itemTokens items small.2 deep
    rw [tokens, List.cons_append, List.foldl_cons, opened, List.foldl_append, first]
    exact others
  | .object [], depth + 1, stack, place, _, deep, takes => by
    have opened : (waiting place stack).step .openObject =
        waiting .nameOrEnd (.members [] none :: stack) := by
      rcases takes with rfl | rfl <;> rfl
    rw [tokens, List.foldl_cons, opened, List.foldl_cons, step_closeObject (.inl rfl) (by omega)]
    rfl
  | .object ((k, v) :: members), depth + 1, stack, place, small, deep, takes => by
    rw [fits, fitsMembers, Bool.and_eq_true] at small
    have opened : [Token.openObject, .text k, .colon].foldl Builder.step (waiting place stack) =
        waiting .value (.members [] (some k) :: stack) := by
      rcases takes with rfl | rfl <;> rfl
    have first : v.tokens.foldl Builder.step (waiting .value (.members [] (some k) :: stack)) =
        .add (.members [] (some k) :: stack) v.reading :=
      foldl_tokens v small.1 (by rw [List.length_cons]; omega) (.inl rfl)
    have others : (memberTokens members).foldl Builder.step
        (waiting .afterMember (.members [(some k, v.reading)] none :: stack)) =
          .add stack (.object ([(some k, v.reading)].reverse ++ memberReadings members) true) :=
      foldl_memberTokens members small.2 deep
    have split : tokens (.object ((k, v) :: members)) =
        [.openObject, .text k, .colon] ++ (v.tokens ++ memberTokens members) := rfl
    rw [split, List.foldl_append, opened, List.foldl_append, first]
    exact others

/-- The tokens of further items end the array. -/
theorem foldl_itemTokens : ∀ (items : List Json) {depth : Nat} {stack : List Frame}
    {done : List Reading}, fitsItems depth items = true → stack.length + (depth + 1) ≤ maxDepth →
      (itemTokens items).foldl Builder.step (waiting .afterItem (.items done :: stack)) =
        .add stack (.array (done.reverse ++ itemReadings items) true)
  | [], _, _, done, _, deep => by
    rw [itemTokens, List.foldl_cons, step_closeArray (.inr rfl) (by omega), itemReadings,
      List.append_nil]
    rfl
  | v :: items, depth, stack, done, small, deep => by
    rw [fitsItems, Bool.and_eq_true] at small
    have next : (waiting .afterItem (.items done :: stack)).step .comma =
        waiting .value (.items done :: stack) := rfl
    have first : v.tokens.foldl Builder.step (waiting .value (.items done :: stack)) =
        .add (.items done :: stack) v.reading :=
      foldl_tokens v small.1 (by rw [List.length_cons]; omega) (.inl rfl)
    have others : (itemTokens items).foldl Builder.step
        (waiting .afterItem (.items (v.reading :: done) :: stack)) =
          .add stack (.array ((v.reading :: done).reverse ++ itemReadings items) true) :=
      foldl_itemTokens items small.2 deep
    rw [itemTokens, List.cons_append, List.foldl_cons, next, List.foldl_append, first, itemReadings]
    rw [List.reverse_cons, List.append_assoc, List.singleton_append] at others
    exact others

/-- The tokens of further members end the object. -/
theorem foldl_memberTokens : ∀ (members : List (String × Json)) {depth : Nat} {stack : List Frame}
    {done : List (Option String × Reading)}, fitsMembers depth members = true →
      stack.length + (depth + 1) ≤ maxDepth →
      (memberTokens members).foldl Builder.step
          (waiting .afterMember (.members done none :: stack)) =
        .add stack (.object (done.reverse ++ memberReadings members) true)
  | [], _, _, done, _, deep => by
    rw [memberTokens, List.foldl_cons, step_closeObject (.inr rfl) (by omega), memberReadings,
      List.append_nil]
    rfl
  | (k, v) :: members, depth, stack, done, small, deep => by
    rw [fitsMembers, Bool.and_eq_true] at small
    have next : [Token.comma, .text k, .colon].foldl Builder.step
        (waiting .afterMember (.members done none :: stack)) =
          waiting .value (.members done (some k) :: stack) := rfl
    have first : v.tokens.foldl Builder.step (waiting .value (.members done (some k) :: stack)) =
        .add (.members done (some k) :: stack) v.reading :=
      foldl_tokens v small.1 (by rw [List.length_cons]; omega) (.inl rfl)
    have others : (memberTokens members).foldl Builder.step
        (waiting .afterMember (.members ((some k, v.reading) :: done) none :: stack)) =
          .add stack (.object (((some k, v.reading) :: done).reverse ++ memberReadings members) true) :=
      foldl_memberTokens members small.2 deep
    have split : memberTokens ((k, v) :: members) =
        [.comma, .text k, .colon] ++ (v.tokens ++ memberTokens members) := rfl
    rw [split, List.foldl_append, next, List.foldl_append, first, memberReadings]
    rw [List.reverse_cons, List.append_assoc, List.singleton_append] at others
    exact others

end

/-- **The text of a value holds its tree**, and nothing beside it. -/
theorem ofText_render {j : Json} (small : j.fits maxDepth = true) :
    Document.ofText j.render = ⟨j.reading, true⟩ := by
  have built : j.tokens.foldl Builder.step (waiting .value []) = .add [] j.reading :=
    foldl_tokens j small (by rw [List.length_nil]; omega) (.inl rfl)
  have start : Builder.empty = waiting .value [] := rfl
  rw [Document.ofText, Document.ofTokens, Json.ofText_render small, start, built]
  rfl

end Reading

end Couponry.Json
