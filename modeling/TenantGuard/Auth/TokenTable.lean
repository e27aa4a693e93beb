import TenantGuard.Auth.Identity

/-!
# Tables of tokens

The simplest way to know callers: a list of tokens and whom they stand for.  Of two entries for one
token the later one counts.
-/

namespace TenantGuard

/-- **One entry of a token table.** -/
structure TokenEntry where
  token : String
  identity : Identity
  deriving DecidableEq, Repr, Inhabited

/-- **A token table.** -/
abbrev TokenTable := List TokenEntry

namespace TokenTable

/-- The identity that a token stands for. -/
def verify (t : TokenTable) (token : String) : Except Refusal Identity :=
  match t.reverse.find? (·.token == token) with
  | some e => .ok e.identity
  | none => .error .invalidToken

end TokenTable

end TenantGuard
