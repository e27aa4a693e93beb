import TenantGuard.Url.Host
import TenantGuard.Url.Path

/-!
# URLs

`Url.parse?` reads an absolute URL the way browsers do.  The schemes of the web (`http`, `https`,
`ws`, `wss`, `ftp` and `file`) are special: a backslash is a slash for them, their path is never
empty, and but for `file` they need a host.
-/

namespace TenantGuard

/-- **An absolute URL**, without its fragment. -/
structure Url where
  scheme : List Char
  host : Option Url.Host
  portNumber : Option Nat
  path : List Char
  query : Option (List Char)
  deriving DecidableEq, Repr, Inhabited

namespace Url

def isSpecial (scheme : List Char) : Bool :=
  ["http", "https", "ws", "wss", "ftp", "file"].contains (String.ofList scheme)

/-- A text without the controls and spaces at its ends, and without tabs and line breaks. -/
def tidy (cs : List Char) : List Char :=
  let isEdge (c : Char) : Bool := c.toNat ≤ 0x20
  let cs := ((cs.dropWhile isEdge).reverse.dropWhile isEdge).reverse
  cs.filter fun c => c != '\t' && c != '\n' && c != '\r'

/-! ## The parts of a URL -/

def isSchemeChar (c : Char) : Bool := c.isAlphanum || c == '+' || c == '-' || c == '.'

/-- The scheme in lower case, and what follows its colon. -/
def scheme? (cs : List Char) : Option (List Char × List Char) :=
  match Text.cut ':' cs with
  | (c :: name, some rest) =>
    if c.isAlpha ∧ name.all isSchemeChar then some ((c :: name).map Char.toLower, rest) else none
  | _ => none

/-- Whether a character ends the part of a URL that names the host. -/
def endsAuthority (special : Bool) (c : Char) : Bool :=
  Path.isSeparator special c || c == '?' || c == '#'

/-- What stands before the first character that passes a test, and the rest. -/
def breakAt (p : Char → Bool) (cs : List Char) : List Char × List Char :=
  (cs.takeWhile (!p ·), cs.dropWhile (!p ·))

/-- The path and the query of a URL, from what follows the host. -/
def pathAndQuery (special : Bool) (cs : List Char) : List Char × Option (List Char) :=
  let (path, rest) := breakAt (fun c => c == '?' || c == '#') cs
  let query := match rest with
    | '?' :: rest => some (breakAt (· == '#') rest).1
    | _ => none
  (Path.normalize special path, query)

/-- The number behind the host, if digits follow; a colon alone counts for nothing. -/
def portNumber? (digits : List Char) : Option (Option Nat) :=
  if digits.isEmpty then some none
  else if digits.all Char.isDigit then
    ((Host.number? 10 digits).filter (· ≤ 65535)).map some
  else none

/-- The host and the text behind it, at the first colon outside square brackets. -/
def cutHost : Bool → List Char → List Char × Option (List Char)
  | _, [] => ([], none)
  | inside, c :: cs =>
    if c = ':' ∧ !inside then ([], some cs)
    else
      let (host, after) := cutHost (c = '[' ∨ (inside ∧ c ≠ ']')) cs
      (c :: host, after)

/-- The host, and the text behind its colon. -/
def host? (special : Bool) (cs : List Char) : Option (Host × List Char) := do
  let (host, after) := cutHost false cs
  if host.isEmpty ∧ (special ∨ after.isSome) then none
  else return (← if special then Host.parse? host else Host.parseLiteral? host, after.getD [])

/-- What follows the credentials, which end at the last `@`, given whether the URL ends there too.
Only a host can follow credentials; an `@` alone may end a URL, and a colon alone is no
credentials. -/
def dropCredentials? (authority : List Char) (isEnd : Bool) : Option (List Char) :=
  match Text.cutLast '@' authority with
  | none => some authority
  | some (credentials, rest) =>
    if rest.isEmpty && !(credentials.isEmpty && isEnd) && credentials != [':'] then none
    else some rest

/-- A URL from what follows the slashes behind its scheme. -/
def withAuthority? (scheme : List Char) (cs : List Char) : Option Url := do
  let special := isSpecial scheme
  let (authority, rest) := breakAt (endsAuthority special) cs
  let (host, behind) ← host? special (← dropCredentials? authority rest.isEmpty)
  let (digits, extra) := breakAt (· == '\\') behind
  let portNumber ← portNumber? digits
  let (path, query) := pathAndQuery special (extra ++ rest)
  return { scheme, host := some host, portNumber, path, query }

/-! ## Files -/

/-- A drive of one letter and a colon or a bar in place of a host. -/
def isDrive (cs : List Char) : Bool :=
  match cs with
  | [c, d] => c.isAlpha && (d == ':' || d == '|')
  | _ => false

/-- The URL of a file; the host may be missing. -/
def file? (cs : List Char) : Option Url :=
  let plain (cs : List Char) : Url :=
    let (path, query) := pathAndQuery true cs
    { scheme := "file".toList, host := none, portNumber := none, path, query }
  match cs with
  | c :: d :: rest =>
    if Path.isSeparator true c ∧ Path.isSeparator true d then
      let (authority, after) := breakAt (endsAuthority true) rest
      if authority.isEmpty then some (plain after)
      else if isDrive authority then some (plain rest)
      else (Host.parse? authority).map fun host => { plain after with host := some host }
    else some (plain cs)
  | cs => some (plain cs)

/-! ## Reading -/

/-- **Reads an absolute URL.** -/
def parse? (s : String) : Option Url := do
  let (scheme, rest) ← scheme? (tidy s.toList)
  if scheme = "file".toList then file? rest
  else if isSpecial scheme then withAuthority? scheme (rest.dropWhile (Path.isSeparator true))
  else match rest with
    | '/' :: '/' :: rest => withAuthority? scheme rest
    | '/' :: _ =>
      let (path, query) := pathAndQuery false rest
      some { scheme, host := none, portNumber := none, path, query }
    | _ =>
      let (path, after) := breakAt (fun c => c == '?' || c == '#') rest
      some { scheme, host := none, portNumber := none, path, query := (pathAndQuery false after).2 }

end Url

end TenantGuard
