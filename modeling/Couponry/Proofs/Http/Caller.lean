import Couponry.Http.Caller
import Couponry.Proofs.Text.Blank

/-!
# Callers in headers

Headers name a caller, or nobody. Whoever is named in the headers that a client writes is the caller that
the API sees, if the id fits its word.
-/

namespace Couponry.Http

open Couponry.Text

/-! ## Who is named -/

namespace Caller

/-- The words for the roles. -/
def words : List (String × Role) :=
  [("user", .user), ("admin", .admin), ("super_admin", .superAdmin)]

/-- The headers name the caller: by a readable id that is a number, and by the word for a role, unless no
role can be read. -/
structure Named (headers : Headers) (caller : Identity) : Prop where
  user : ∃ text, headers.text? "x-user-id" = some text ∧
    readInt64 (trim text).toList = some caller.userId.value
  role : ∀ text, headers.text? "x-user-role" = some text → (trim text, caller.role) ∈ words
  plain : headers.text? "x-user-role" = none → caller.role = .user

/-- The headers name nobody: the id is absent, cannot be read or is no number, or a role that can be read is
not known. -/
def Unnamed (headers : Headers) : Prop :=
  (∀ text, headers.text? "x-user-id" = some text → readInt64 (trim text).toList = none) ∨
    ∃ text, headers.text? "x-user-role" = some text ∧ ∀ role, (trim text, role) ∉ words

theorem ofName?_eq_some_iff {text : String} {role : Role} :
    Role.ofName? text = some role ↔ (text, role) ∈ words := by
  constructor
  · intro found
    have named : role.name = text := by simpa using List.find?_some found
    rw [← named]
    cases role <;> decide
  · intro member
    simp only [words, List.mem_cons, Prod.mk.injEq, List.not_mem_nil, or_false] at member
    rcases member with ⟨rfl, rfl⟩ | ⟨rfl, rfl⟩ | ⟨rfl, rfl⟩ <;> decide

theorem ofName?_eq_none {text : String} (unknown : ∀ role, (text, role) ∉ words) :
    Role.ofName? text = none :=
  Option.eq_none_iff_forall_ne_some.2 fun role found => unknown role (ofName?_eq_some_iff.1 found)

variable {headers : Headers} {caller : Identity}

/-- Who is let in is named. -/
theorem named_of_ofHeaders (read : ofHeaders headers = .ok caller) : Named headers caller := by
  unfold ofHeaders at read
  split at read
  · cases read
  · next text user =>
    split at read
    · cases read
    · next number =>
      split at read
      · next plain =>
        cases read
        exact ⟨⟨text, user, number⟩, fun other role => absurd (plain.symm.trans role) nofun, fun _ => rfl⟩
      · next text' role =>
        split at read
        · next known =>
          cases read
          refine ⟨⟨text, user, number⟩, fun other same => ?_, fun none => absurd (role.symm.trans none) nofun⟩
          cases role.symm.trans same
          exact ofName?_eq_some_iff.1 known
        · cases read

/-- Nobody is refused. -/
theorem ofHeaders_of_unnamed (unnamed : Unnamed headers) :
    ∃ why, ofHeaders headers = .error (.permissionDenied why) := by
  unfold ofHeaders
  cases user : headers.text? userHeader with
  | none => exact ⟨_, rfl⟩
  | some text =>
    dsimp only
    cases number : readInt64 (trim text).toList with
    | none => exact ⟨_, rfl⟩
    | some n =>
      rcases unnamed with absent | ⟨text', role, unknown⟩
      · exact absurd (number.symm.trans (absent text user)) nofun
      · have role : headers.text? roleHeader = some text' := role
        simp only [role, ofName?_eq_none unknown]
        exact ⟨_, rfl⟩

end Caller

/-! ## Headers that a client writes -/

/-- A number can stand in a header. -/
theorem isReadable_display {kind : IdKind} (id : Id kind) : Headers.isReadable id.display = true := by
  rw [Headers.isReadable, List.all_eq_true, Id.display, integer, String.toList_ofList]
  intro c member
  rcases of_mem_integerChars member with rfl | digit
  · decide
  · have bounds := toNat_of_isDigit digit
    rw [Bool.or_eq_true, decide_eq_true_eq]
    right
    omega

theorem trim_display {kind : IdKind} (id : Id kind) : trim id.display = id.display := by
  refine trim_eq_self fun c member => ?_
  rw [Id.display, integer, String.toList_ofList] at member
  rcases of_mem_integerChars member with rfl | digit
  · decide
  · exact isBlank_of_isDigit digit

/-- **The API sees the caller that the client names**, whatever headers stand behind. -/
theorem Caller.ofHeaders_headers {caller : Identity} (word : fitsInt64 caller.userId.value = true)
    (more : Headers) : Caller.ofHeaders (Caller.headers caller ++ more) = .ok caller := by
  have other : (Headers.fold userHeader == Headers.fold roleHeader) = false := by decide
  have user : Headers.text? (Caller.headers caller ++ more) userHeader =
      some caller.userId.display := by
    simp [Headers.text?, Headers.get?, Caller.headers, isReadable_display]
  have readable : Headers.isReadable caller.role.name = true := by
    cases caller.role <;> decide
  have role : Headers.text? (Caller.headers caller ++ more) roleHeader = some caller.role.name := by
    simp [Headers.text?, Headers.get?, Caller.headers, other, readable]
  have number : readInt64 caller.userId.display.toList = some caller.userId.value := by
    rw [Id.display, integer, String.toList_ofList, readInt64_integerChars word]
  have name : trim caller.role.name = caller.role.name := by
    cases caller.role <;> decide
  rw [Caller.ofHeaders, user]
  simp only [trim_display, number, role, name, Role.ofName?_name]

end Couponry.Http
