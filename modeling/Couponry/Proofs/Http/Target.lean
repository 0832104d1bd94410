import Couponry.Http.Client
import Couponry.Http.Router
import Couponry.Proofs.Text.Form

/-!
# Where a request goes

The path of a URL whose segments hold no character that ends them is split by the router into these
very segments. So the request for a coupon goes to that coupon, unless a character of the code
vanishes on the way or, for a check, the code is the one that the history of a caller is found under.
-/

namespace Couponry.Http

open Couponry.Text

namespace Url

/-- No segment of the path holds a character that would end it. -/
def Sealed (u : Url) : Prop :=
  ∀ segment ∈ u.path, ∀ c ∈ segment, c ≠ '/' ∧ c ≠ '?' ∧ c ≠ '#'

/-- The URL has no path of its own. -/
def Bare (u : Url) : Prop :=
  u.path = [] ∨ u.path = [[]]

/-- There is no tab and no line break in the text. Nothing else vanishes from a URL. -/
def Steady (text : String) : Prop :=
  ∀ c ∈ ['\t', '\n', '\r'], c ∉ text.toList

theorem vanishes_iff {c : Char} : vanishes c = true ↔ c ∈ ['\t', '\n', '\r'] := by
  simp [vanishes, or_assoc]

theorem steady_iff {text : String} : Steady text ↔ ∀ c ∈ text.toList, (!vanishes c) = true := by
  constructor
  · intro steady c member
    rw [Bool.not_eq_true', ← Bool.not_eq_true, vanishes_iff]
    exact fun gone => steady c gone member
  · intro kept c gone member
    have stays := kept c member
    rw [vanishes_iff.2 gone] at stays
    cases stays

instance (text : String) : Decidable (Steady text) :=
  decidable_of_iff (text.toList.all fun c => !vanishes c) (by rw [List.all_eq_true, steady_iff])

/-- The segments of a path, each with its slash. -/
def joined (path : List (List Char)) : List Char :=
  path.flatMap fun segment => '/' :: segment

section Target

variable {u : Url} {r : Request}

theorem toList_target (u : Url) : u.target.toList = joined u.path ++ match u.query with
    | some q => '?' :: q
    | none => [] := by
  rw [target, String.toList_ofList]
  rfl

theorem Sealed.joined (h : u.Sealed) : ∀ c ∈ joined u.path, c ≠ '?' ∧ c ≠ '#' := by
  intro c member
  obtain ⟨segment, of, inside⟩ := List.mem_flatMap.1 member
  rcases List.mem_cons.1 inside with rfl | inside
  · decide
  · exact (h segment of c inside).2

/-- What a request names is what its URL says, up to the fragment. -/
theorem Sealed.place (h : u.Sealed) (rooted : u.path ≠ []) (named : r.target = u.target) :
    r.place = Url.joined u.path ++ match u.query with
      | some q => '?' :: q.takeWhile (· != '#')
      | none => [] := by
  have kept : ∀ c ∈ Url.joined u.path, (c != '#') = true := fun c member => by
    simp [(h.joined c member).2]
  have starts : ∃ rest, Url.joined u.path = '/' :: rest := by
    cases path : u.path with
    | nil => exact absurd path rooted
    | cons segment rest => exact ⟨segment ++ Url.joined rest, rfl⟩
  obtain ⟨rest, starts⟩ := starts
  have before : r.target.toList.takeWhile (· != '#') = Url.joined u.path ++ match u.query with
      | some q => '?' :: q.takeWhile (· != '#')
      | none => [] := by
    rw [named, toList_target, List.takeWhile_append_of_pos kept]
    cases u.query <;> rfl
  rw [Request.place, before, starts]
  rfl

theorem Sealed.path (h : u.Sealed) (rooted : u.path ≠ []) (named : r.target = u.target) :
    r.path = Url.joined u.path := by
  have kept : ∀ c ∈ Url.joined u.path, (c != '?') = true := fun c member => by
    simp [(h.joined c member).1]
  rw [Request.path, h.place rooted named, List.takeWhile_append_of_pos kept]
  cases u.query <;> simp

theorem Sealed.query (h : u.Sealed) (rooted : u.path ≠ []) (named : r.target = u.target)
    {q : List Char} (asked : u.query = some q) (whole : '#' ∉ q) : r.query = q := by
  have kept : ∀ c ∈ Url.joined u.path, (c != '?') = true := fun c member => by
    simp [(h.joined c member).1]
  have all : q.takeWhile (· != '#') = q := by
    have other : ∀ c ∈ q, (c != '#') = true := fun c member => by
      rw [bne_iff_ne]
      rintro rfl
      exact whole member
    have cut : (q ++ []).takeWhile (· != '#') = q ++ [].takeWhile (· != '#') :=
      List.takeWhile_append_of_pos other
    rwa [List.append_nil, List.takeWhile_nil, List.append_nil] at cut
  rw [Request.query, h.place rooted named, List.dropWhile_append_of_pos kept, asked]
  simp [all]

/-- **The router sees the segments of the URL.** -/
theorem Sealed.route (h : u.Sealed) (rooted : u.path ≠ []) (named : r.target = u.target) :
    Route.ofPath r.path = Route.ofSegments u.path := by
  rw [h.path rooted named]
  cases path : u.path with
  | nil => exact absurd path rooted
  | cons segment rest =>
    have slash : ∀ segment ∈ u.path, '/' ∉ segment := fun segment of inside =>
      (h segment of '/' inside).1 rfl
    rw [path] at slash
    show Route.ofSegments (Form.splitOn '/' (segment ++ Url.joined rest)) = _
    rw [Url.joined, Form.splitOn_join (slash segment List.mem_cons_self)
      fun p later => slash p (List.mem_cons_of_mem _ later)]

end Target

/-! ## Segments -/

/-- The segment that carries a text. -/
def segmentOf (text : String) : List Char :=
  Percent.encode keptInSegment text.toList

theorem decode_segmentOf (text : String) : Percent.decode (segmentOf text) = some text := by
  rw [segmentOf, Percent.decode_encode (by decide), String.ofList_toList]

theorem segmentOf_injective {text other : String} (h : segmentOf text = segmentOf other) :
    text = other :=
  String.toList_injective (Percent.encode_injective (by decide) h)

/-- No character of a text can end the segment that carries it. -/
theorem segmentOf_sealed (text : String) :
    ∀ c ∈ segmentOf text, c ≠ '/' ∧ c ≠ '?' ∧ c ≠ '#' := by
  intro c member
  refine ⟨?_, ?_, ?_⟩ <;>
  · rintro rfl
    rcases Percent.of_mem_encode member with ⟨-, kept⟩ | other | other
    · exact absurd kept (by decide)
    · exact absurd other (by decide)
    · exact absurd other (by decide)

/-- The text that is left of a code on its way. -/
def arriving (code : String) : String :=
  String.ofList (code.toList.filter fun c => !vanishes c)

theorem arriving_eq_self_iff {code : String} : arriving code = code ↔ Steady code := by
  rw [arriving, ← String.toList_inj, String.toList_ofList, List.filter_eq_self, steady_iff]

/-! ## Bases -/

theorem Bare.sealed {u : Url} (bare : u.Bare) : u.Sealed := by
  intro segment inside
  rcases bare with none | empty
  · rw [none] at inside
    exact absurd inside List.not_mem_nil
  · rw [empty] at inside
    rw [List.mem_singleton.1 inside]
    exact fun c member => absurd member List.not_mem_nil

theorem mem_of_mem_above {path : List (List Char)} {segment : List Char}
    (h : segment ∈ above path) : segment ∈ path := by
  unfold above at h
  split at h
  · exact h
  · exact (List.dropLast_sublist _).subset h

/-- What is pushed is the segment of the text that arrives, or a place. -/
theorem pushSegment_eq (path : List (List Char)) (text : String) :
    pushSegment path text =
      if arriving text = ".." then above (if path = [[]] then [] else path) ++ [[]]
      else if arriving text = "." then (if path = [[]] then [] else path) ++ [[]]
      else (if path = [[]] then [] else path) ++ [segmentOf (arriving text)] := by
  have segment : Percent.encode keptInSegment (text.toList.filter fun c => !vanishes c) =
      segmentOf (arriving text) := by
    rw [segmentOf, arriving, String.toList_ofList]
  have twoDots : segmentOf ".." = ['.', '.'] := by decide
  have oneDot : segmentOf "." = ['.'] := by decide
  have two : segmentOf (arriving text) = ['.', '.'] ↔ arriving text = ".." :=
    ⟨fun h => segmentOf_injective (h.trans twoDots.symm), fun h => by rw [h, twoDots]⟩
  have one : segmentOf (arriving text) = ['.'] ↔ arriving text = "." :=
    ⟨fun h => segmentOf_injective (h.trans oneDot.symm), fun h => by rw [h, oneDot]⟩
  simp only [pushSegment, segment, two, one]

/-- A path with one more segment has no others but those it had. -/
theorem mem_pushSegment {path : List (List Char)} {text : String} {segment : List Char}
    (h : segment ∈ pushSegment path text) :
    segment ∈ path ∨ segment = [] ∨ segment = segmentOf (arriving text) := by
  have kept : ∀ {s}, s ∈ (if path = [[]] then [] else path) → s ∈ path := by
    intro s member
    split at member
    · exact absurd member List.not_mem_nil
    · exact member
  rw [pushSegment_eq] at h
  split at h
  · rcases List.mem_append.1 h with before | last
    · exact .inl (kept (mem_of_mem_above before))
    · exact .inr (.inl (List.mem_singleton.1 last))
  · split at h
    · rcases List.mem_append.1 h with before | last
      · exact .inl (kept before)
      · exact .inr (.inl (List.mem_singleton.1 last))
    · rcases List.mem_append.1 h with before | last
      · exact .inl (kept before)
      · exact .inr (.inr (List.mem_singleton.1 last))

/-- **What is pushed ends no segment.** -/
theorem Sealed.push {u : Url} (h : u.Sealed) (text : String) : (u.push text).Sealed := by
  unfold Url.push
  split
  · exact h
  · intro segment inside
    rcases mem_pushSegment inside with old | rfl | rfl
    · exact h segment old
    · exact fun c member => absurd member List.not_mem_nil
    · exact segmentOf_sealed _

theorem pushSegment_ne_nil (path : List (List Char)) (text : String) :
    pushSegment path text ≠ [] := by
  rw [pushSegment_eq]
  split
  · exact List.append_ne_nil_of_right_ne_nil _ (List.cons_ne_nil _ _)
  · split <;> exact List.append_ne_nil_of_right_ne_nil _ (List.cons_ne_nil _ _)

end Url

end Couponry.Http
