import Couponry.Proofs.Http.Address

/-!
# Bases

Whatever text a client accepts as the URL of a service, the segments of its path are split by the
router as they are. So a redemption is either taken as one or finds no handler, whatever the base.
-/

namespace Couponry.Http

open Couponry.Text

namespace Url

/-! ## Reading -/

/-- An encoded part of a path holds nothing that would end it. -/
theorem encode_sealed {part : List Char} (slash : '/' ∉ part) :
    ∀ c ∈ Percent.encode keptInPath part, c ≠ '/' ∧ c ≠ '?' ∧ c ≠ '#' := by
  intro c member
  refine ⟨?_, ?_, ?_⟩ <;> rintro rfl <;>
    rcases Percent.of_mem_encode member with ⟨inside, kept⟩ | other | other
  · exact slash inside
  · exact absurd other (by decide)
  · exact absurd other (by decide)
  · exact absurd kept (by decide)
  · exact absurd other (by decide)
  · exact absurd other (by decide)
  · exact absurd kept (by decide)
  · exact absurd other (by decide)
  · exact absurd other (by decide)

/-- Resolving places adds no segments but empty ones. -/
theorem forall_mem_resolve {P : List Char → Prop} (empty : P []) {done todo : List (List Char)}
    (before : ∀ s ∈ done, P s) (after : ∀ s ∈ todo, P s) : ∀ s ∈ resolve done todo, P s := by
  have single : ∀ {s}, P s → ∀ t ∈ [s], P t := fun holds t member => by
    rw [List.mem_singleton.1 member]
    exact holds
  have higher : ∀ {path}, (∀ s ∈ path, P s) → ∀ s ∈ above path, P s := fun all s member =>
    all s (mem_of_mem_above member)
  induction done, todo using resolve.induct with
  | case1 done =>
    rw [resolve]
    exact before
  | case2 done segment up =>
    rw [resolve, if_pos up]
    exact List.forall_mem_append.2 ⟨higher before, single empty⟩
  | case3 done segment up here =>
    rw [resolve, if_neg up, if_pos here]
    exact List.forall_mem_append.2 ⟨before, single empty⟩
  | case4 done segment up here =>
    rw [resolve, if_neg up, if_neg here]
    exact List.forall_mem_append.2 ⟨before, after⟩
  | case5 done segment rest more up ih =>
    rw [resolve, if_pos up]
    · exact ih (higher before) fun s later => after s (List.mem_cons_of_mem _ later)
    · exact more
  | case6 done segment rest more up here ih =>
    rw [resolve, if_neg up, if_pos here]
    · exact ih before fun s later => after s (List.mem_cons_of_mem _ later)
    · exact more
  | case7 done segment rest more up here ih =>
    rw [resolve, if_neg up, if_neg here]
    · exact ih (List.forall_mem_append.2 ⟨before, single (after segment List.mem_cons_self)⟩)
        fun s later => after s (List.mem_cons_of_mem _ later)
    · exact more

theorem ofRest_sealed (rest : List Char) : (ofRest rest).Sealed := by
  unfold ofRest Sealed
  simp only
  split
  · exact fun s member => absurd member List.not_mem_nil
  · refine forall_mem_resolve (fun c member => absurd member List.not_mem_nil)
      (fun s member => absurd member List.not_mem_nil) ?_
    intro s member
    obtain ⟨part, inside, rfl⟩ := List.mem_map.1 member
    exact encode_sealed (Form.not_mem_splitOn inside)

/-- A URL of a host has at least the empty segment. -/
theorem rooted_sealed {u : Url} (h : u.Sealed) :
    (if u.path.isEmpty then { u with path := [[]] } else u).Sealed := by
  split
  · exact Bare.sealed (.inr rfl)
  · exact h

/-- **Every URL that can be a base is split as it is.** -/
theorem parse_sealed {text : String} {u : Url} (read : parse text = some u) : u.Sealed := by
  obtain ⟨⟨name, rest⟩, -, read⟩ := Option.bind_eq_some_iff.1 read
  simp only at read
  split at read
  · unfold ofWeb at read
    simp only at read
    split at read
    · cases read
      exact rooted_sealed (ofRest_sealed _)
    · cases read
  · unfold ofFile at read
    split at read
    · simp only at read
      split at read
      · cases read
        exact rooted_sealed (ofRest_sealed _)
      · cases read
    · cases read
      exact ofRest_sealed _
    · cases read
      exact ofRest_sealed _
  · unfold ofOther at read
    split at read
    · simp only at read
      split at read
      · cases read
        exact ofRest_sealed _
      · cases read
    · cases read
      exact ofRest_sealed _
    · cases read

end Url

namespace Client

open Url

/-- **Every base that a client accepts is split as it is.** -/
theorem base_sealed {text : String} {u : Url} (accepted : base text = .ok u) : u.Sealed := by
  unfold base at accepted
  split at accepted
  · next read =>
    cases accepted
    exact parse_sealed read
  · cases accepted

/-- Whatever the base, a redemption ends in the segment that asks for one. -/
theorem path_redeem (base : Url) (code : String) : ∃ before,
    ((couponUrl base code).push "apply").path = before ++ [segmentOf "apply"] := by
  have named : arriving "apply" = "apply" := by decide
  refine ⟨if (couponUrl base code).path = [[]] then [] else (couponUrl base code).path, ?_⟩
  rw [Url.push, if_neg (by decide), pushSegment_eq, named, if_neg (by decide), if_neg (by decide)]

/-- A path that ends in that segment asks for a redemption, or for nothing that takes a request. -/
theorem ofSegments_apply {before : List (List Char)} {route : Route}
    (found : Route.ofSegments (before ++ [segmentOf "apply"]) = some route) :
    (∃ segment, route = .apply segment) ∨ ∃ segment, route = .coupon segment := by
  have action : segmentOf "apply" = "apply".toList := by decide
  rw [action] at found
  rcases before with _ | ⟨a, _ | ⟨b, _ | ⟨c, before⟩⟩⟩
  · have nothing : Route.ofSegments ["apply".toList] = none := by decide
    rw [List.nil_append, nothing] at found
    cases found
  · simp only [List.cons_append, List.nil_append, Route.ofSegments] at found
    split at found
    · exact .inr ⟨_, (Option.some.inj found).symm⟩
    · cases found
  · simp only [List.cons_append, List.nil_append, Route.ofSegments] at found
    split at found
    · exact .inl ⟨_, (Option.some.inj found).symm⟩
    · split at found
      · next other =>
        exact absurd other.2 (by decide)
      · cases found
  · cases before <;> cases found

/-- **A redemption is taken as one or not at all**, whatever the base. -/
theorem dispatch_redeem {base : Url} (h : base.Sealed) (caller : Identity) (code : String)
    (productId : Option ProductId) :
    (∃ segment, Router.dispatch (redeemRequest base caller code productId)
        (Route.ofPath (redeemRequest base caller code productId).path) =
      Router.applyCoupon (redeemRequest base caller code productId) segment) ∨
    ∃ response : Response, response.isSuccess = false ∧
      Router.dispatch (redeemRequest base caller code productId)
        (Route.ofPath (redeemRequest base caller code productId).path) = return response := by
  have sealed := (couponUrl_sealed h code).push "apply"
  obtain ⟨before, path⟩ := path_redeem base code
  have rooted : ((couponUrl base code).push "apply").path ≠ [] := by
    rw [path]
    exact List.append_ne_nil_of_right_ne_nil _ (List.cons_ne_nil _ _)
  have method : (redeemRequest base caller code productId).method = "POST" := rfl
  rw [sealed.route rooted (r := redeemRequest base caller code productId) rfl, path]
  cases found : Route.ofSegments (before ++ [segmentOf "apply"]) with
  | none => exact .inr ⟨.empty 404, rfl, by simp [Router.dispatch, method]⟩
  | some route =>
    rcases ofSegments_apply found with ⟨segment, rfl⟩ | ⟨segment, rfl⟩
    · exact .inl ⟨segment, Router.dispatch_apply method⟩
    · refine .inr ⟨⟨405, Router.allow (.coupon segment), ""⟩, rfl, ?_⟩
      simp [Router.dispatch, Route.methods, method]

end Client

end Couponry.Http
