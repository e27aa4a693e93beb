import TenantGuard.Http.Message
import TenantGuard.Text.Blank
import TenantGuard.Text.Split

/-!
# Bearer tokens in requests

The token stands in the first `Authorization` header behind the word `Bearer`, which may be
capitalized or in lower case.
-/

namespace TenantGuard

open Http (Header)

/-- **The bearer token of a request**, if there is one that is not blank. -/
def bearerToken? (hs : List Header) : Option String := do
  let value ← Http.visible? (← Http.firstValue? "authorization" hs)
  let token ← Text.after? "Bearer ".toList value <|> Text.after? "bearer ".toList value
  let token := Text.trim token
  if token.isEmpty then none else some (String.ofList token)

end TenantGuard
