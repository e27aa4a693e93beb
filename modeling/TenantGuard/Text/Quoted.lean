import TenantGuard.Text.Unmarked

/-!
# Quoted text in messages

A text inside a message for the operator stands between double quotes.  The quote, the backslash and
the line breaks are escaped with a backslash, characters that leave no mark of their own
(`isUnmarked`) by their code point in hexadecimal.
-/

namespace TenantGuard.Text.Quoted

/-- One character between the quotes. -/
def escapeChar (c : Char) : List Char :=
  if c = '\x00' then ['\\', '0']
  else if c = '\t' then ['\\', 't']
  else if c = '\r' then ['\\', 'r']
  else if c = '\n' then ['\\', 'n']
  else if c = '"' then ['\\', '"']
  else if c = '\\' then ['\\', '\\']
  else if isUnmarked c then '\\' :: 'u' :: '{' :: Nat.toDigits 16 c.toNat ++ ['}']
  else [c]

/-- **A text between quotes.** -/
def quote (s : String) : String :=
  "\"" ++ String.ofList (s.toList.flatMap escapeChar) ++ "\""

end TenantGuard.Text.Quoted
