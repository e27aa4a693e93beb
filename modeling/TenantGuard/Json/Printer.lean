import TenantGuard.Json.Value

/-!
# Compact JSON text

`Json.render` writes a value without blanks.  In a text only the quote, the backslash and the
control characters below `U+0020` are escaped, five of them with a letter and the others with four
hexadecimal digits.
-/

namespace TenantGuard.Json

/-- The hexadecimal digit of a number below sixteen, in lower case. -/
def hexDigit (n : Nat) : Char := Nat.digitChar n

/-- **One character of a text as it is written.** -/
def escapeChar (c : Char) : List Char :=
  if c = '"' then ['\\', '"']
  else if c = '\\' then ['\\', '\\']
  else if c = '\x08' then ['\\', 'b']
  else if c = '\t' then ['\\', 't']
  else if c = '\n' then ['\\', 'n']
  else if c = '\x0c' then ['\\', 'f']
  else if c = '\r' then ['\\', 'r']
  else if c.toNat < 0x20 then
    ['\\', 'u', '0', '0', hexDigit (c.toNat / 16), hexDigit (c.toNat % 16)]
  else [c]

/-- The characters of a text between its quotes. -/
def escape : List Char → List Char
  | [] => []
  | c :: cs => escapeChar c ++ escape cs

/-- A text with its quotes. -/
def quote (s : String) : String := "\"" ++ String.ofList (escape s.toList) ++ "\""

mutual

/-- **The compact text of a value.** -/
def render : Json → String
  | null => "null"
  | boolean b => if b then "true" else "false"
  | number n => n.toText
  | text s => quote s
  | array [] => "[]"
  | array (x :: xs) => "[" ++ render x ++ renderItems xs ++ "]"
  | object [] => "\x7b\x7d"
  | object ((n, v) :: ms) => "\x7b" ++ quote n ++ ":" ++ render v ++ renderMembers ms ++ "\x7d"

/-- The items after the first, each behind its comma. -/
def renderItems : List Json → String
  | [] => ""
  | x :: xs => "," ++ render x ++ renderItems xs

/-- The members after the first, each behind its comma. -/
def renderMembers : List (String × Json) → String
  | [] => ""
  | (n, v) :: ms => "," ++ quote n ++ ":" ++ render v ++ renderMembers ms

end

end TenantGuard.Json
