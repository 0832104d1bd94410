import Couponry.Http.Error
import Couponry.Identity
import Couponry.Text.Blank

/-!
# Callers over HTTP

A gateway in front of the program verifies sessions and hands over who calls in two headers. A
caller without a readable user id is refused; a role that cannot be read counts as that of a user.
-/

namespace Couponry.Http.Caller

open Couponry.Text

/-- The header with the user id. -/
def userHeader : String := "x-user-id"

/-- The header with the role. -/
def roleHeader : String := "x-user-role"

/-- Who calls, or why the call is refused. -/
def ofHeaders (headers : Headers) : Except ApiError Identity :=
  match headers.text? userHeader with
  | none => .error (.permissionDenied "authentication required")
  | some text =>
    match readInt64 (trim text).toList with
    | none => .error (.permissionDenied "malformed user id")
    | some n =>
      match headers.text? roleHeader with
      | none => .ok ⟨⟨n⟩, .user⟩
      | some text =>
        match Role.ofName? (trim text) with
        | some role => .ok ⟨⟨n⟩, role⟩
        | none => .error (.permissionDenied (Role.unknownText (trim text)))

/-- The headers that name a caller. -/
def headers (caller : Identity) : Headers :=
  [(userHeader, caller.userId.display), (roleHeader, caller.role.name)]

end Couponry.Http.Caller
