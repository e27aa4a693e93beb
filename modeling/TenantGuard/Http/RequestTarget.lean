import TenantGuard.Text.Split

/-!
# Request targets

What a request asks for, in one of four forms: a path with a query, the same behind a scheme and an
authority, an authority alone, or an asterisk.  Only the path and the query matter here; a fragment
is no part of either.
-/

namespace TenantGuard.Http

/-- **A request target.** -/
structure RequestTarget where
  /-- The path as it was sent; empty for an authority alone. -/
  path : String
  query : Option String := none
  deriving DecidableEq, Repr, Inhabited

namespace RequestTarget

/-- The characters of schemes. -/
def isSchemeChar (c : Char) : Bool := c.isAlphanum || c == '+' || c == '-' || c == '.'

/-- What follows a scheme and its authority. -/
def pastAuthority? (cs : List Char) : Option (List Char) :=
  (Text.after? "://".toList (cs.dropWhile isSchemeChar)).map
    (·.dropWhile fun c => c != '/' && c != '?')

/-- A path and what follows the first question mark. -/
def ofPath (cs : List Char) : RequestTarget :=
  let (path, query) := Text.cut '?' cs
  { path := String.ofList path, query := query.map String.ofList }

/-- **The target that a text names.**  Behind an authority, no path is the shortest one. -/
def ofText (text : String) : RequestTarget :=
  let cs := (Text.cut '#' text.toList).1
  match cs with
  | '/' :: _ | ['*'] => ofPath cs
  | _ =>
    match pastAuthority? cs with
    | none => ⟨"", none⟩
    | some rest =>
      let t := ofPath rest
      if t.path.isEmpty then { t with path := "/" } else t

end RequestTarget

end TenantGuard.Http
