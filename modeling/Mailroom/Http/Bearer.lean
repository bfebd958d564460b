import Mailroom.Text.Blank
import Mailroom.Text.Find

/-!
# Bearer tokens
-/

namespace Mailroom.Http

/-- The token of a header value of the form `Bearer <token>`. The scheme ends at the first space;
the token loses the blanks around it and must not be empty then. -/
def bearerToken? (value : String) : Option String :=
  match Text.splitOnce [' '] value.toList with
  | none => none
  | some (scheme, rest) =>
    let token := Text.trim (String.ofList rest)
    if scheme = "Bearer".toList ∧ token ≠ "" then some token else none

end Mailroom.Http
