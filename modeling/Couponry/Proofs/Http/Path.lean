import Couponry.Http.Route
import Couponry.Proofs.Text.Form

/-!
# Paths written out

The paths of the API as they are written, each with its parameter in place. A path leads to a route just when
it is written like this: no parameter holds a slash, and a coupon that is asked for by itself has a code, which
is not the word that the history of a caller is found under.
-/

namespace Couponry.Http

open Couponry.Text

namespace Route

/-- The path of a route. -/
def path : Route → List Char
  | .health => "/health".toList
  | .metrics => "/metrics".toList
  | .coupons => "/coupons".toList
  | .used => "/coupons/used".toList
  | .coupon code => "/coupons/".toList ++ code
  | .apply code => "/coupons/".toList ++ code ++ "/apply".toList
  | .products => "/products".toList
  | .purchase id => "/products/".toList ++ id ++ "/purchase".toList

/-- The parameter is one that the route takes. -/
def Proper : Route → Prop
  | .coupon code => '/' ∉ code ∧ code ≠ [] ∧ code ≠ "used".toList
  | .apply parameter | .purchase parameter => '/' ∉ parameter
  | _ => True

/-- A path that is written like this leads to its route. -/
theorem ofPath_path {route : Route} (proper : route.Proper) : ofPath route.path = some route := by
  cases route with
  | health | metrics | coupons | used | products => decide
  | coupon code =>
    obtain ⟨free, some, other⟩ := proper
    show ofSegments (Form.splitOn '/' ("coupons".toList ++ '/' :: code)) = _
    rw [Form.splitOn_append (by decide), Form.splitOn_of_not_mem free, ofSegments, if_pos rfl, if_neg other,
      if_neg (by simpa using some)]
  | apply code =>
    show ofSegments (Form.splitOn '/' ("coupons".toList ++ '/' :: (code ++ '/' :: "apply".toList))) = _
    rw [Form.splitOn_append (by decide), Form.splitOn_append proper, Form.splitOn_of_not_mem (by decide)]
    simp [ofSegments]
  | purchase id =>
    show ofSegments (Form.splitOn '/' ("products".toList ++ '/' :: (id ++ '/' :: "purchase".toList))) = _
    rw [Form.splitOn_append (by decide), Form.splitOn_append proper, Form.splitOn_of_not_mem (by decide)]
    simp [ofSegments]

/-- Where a path leads says how it is written. -/
theorem eq_path_of_ofPath {path : List Char} {route : Route} (found : ofPath path = some route) :
    path = route.path ∧ route.Proper := by
  unfold ofPath at found
  split at found
  · next rest =>
    have free : ∀ segment ∈ Form.splitOn '/' rest, '/' ∉ segment := fun _ => Form.not_mem_splitOn
    unfold ofSegments at found
    split at found
    · next a parted =>
      rw [Form.eq_join_of_splitOn parted]
      repeat' split at found
      all_goals cases found
      all_goals
        next named =>
        rw [named]
        exact ⟨rfl, trivial⟩
    · next a b parted =>
      rw [Form.eq_join_of_splitOn parted]
      have bare : '/' ∉ b := free b (by simp [parted])
      split at found
      · next named =>
        rw [named]
        split at found
        · next used =>
          cases found
          rw [used]
          exact ⟨rfl, trivial⟩
        · next other =>
          split at found
          · cases found
          · next some =>
            cases found
            refine ⟨?_, bare, ?_, other⟩
            · rw [List.flatMap_singleton]
              rfl
            · rwa [List.isEmpty_iff] at some
      · cases found
    · next a b c parted =>
      rw [Form.eq_join_of_splitOn parted]
      have bare : '/' ∉ b := free b (by simp [parted])
      repeat' split at found
      all_goals cases found
      all_goals
        next named =>
        obtain ⟨rfl, rfl⟩ := named
        refine ⟨?_, bare⟩
        rw [List.flatMap_cons, List.flatMap_singleton]
        show _ = _ ++ b ++ _
        rw [List.append_assoc]
        rfl
    · cases found
  · cases found

theorem ofPath_eq_some_iff {path : List Char} {route : Route} :
    ofPath path = some route ↔ path = route.path ∧ route.Proper := by
  refine ⟨eq_path_of_ofPath, ?_⟩
  rintro ⟨rfl, proper⟩
  exact ofPath_path proper

end Route

end Couponry.Http
