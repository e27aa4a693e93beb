import TenantGuard.Text.Percent

/-!
# Paths of URLs

The path of a URL is cut into segments, and the segments that mean "here" and "one up" are resolved.

* `segments` cuts at slashes, and at backslashes where those count as slashes;
* `resolve` drops each dot segment, and with a double one the segment before it; a path that ends in
  a dot segment ends in a slash;
* a character outside the path's own alphabet is written in percent triples.
-/

namespace TenantGuard.Url.Path

/-- The segments between separators. -/
def segments (isSeparator : Char → Bool) : List Char → List (List Char)
  | [] => [[]]
  | c :: cs =>
    if isSeparator c then [] :: segments isSeparator cs
    else match segments isSeparator cs with
      | [] => [[c]]
      | s :: rest => (c :: s) :: rest

/-- A segment in which each written dot stands as a dot. -/
def plainDots : List Char → List Char
  | [] => []
  | [c] => [c]
  | [c, d] => [c, d]
  | c :: d :: e :: rest =>
    if c = '%' ∧ d = '2' ∧ (e = 'e' ∨ e = 'E') then '.' :: plainDots rest
    else c :: plainDots (d :: e :: rest)

def isHere (s : List Char) : Bool := plainDots s == ['.']

def isUp (s : List Char) : Bool := plainDots s == ['.', '.']

/-- Resolves segments from a stack of those before, the last one first. -/
def resolveFrom (above : List (List Char)) : List (List Char) → List (List Char)
  | [] => above.reverse
  | [s] =>
    if isUp s then ([] :: above.tail).reverse
    else if isHere s then ([] :: above).reverse
    else (s :: above).reverse
  | s :: rest =>
    if isUp s then resolveFrom above.tail rest
    else if isHere s then resolveFrom above rest
    else resolveFrom (s :: above) rest

/-- **Resolves the dot segments** of a path. -/
def resolve (ss : List (List Char)) : List (List Char) := resolveFrom [] ss

/-- Whether a character is written in percent triples within a path. -/
def isEncoded (c : Char) : Bool :=
  c.toNat ≤ 0x20 || 0x7F ≤ c.toNat ||
    c == '"' || c == '#' || c == '<' || c == '>' || c == '?' || c == '^' || c == '\x60' ||
    c == '\x7b' || c == '\x7d'

def encodeChar (c : Char) : List Char :=
  if isEncoded c then (Text.Utf8.encode [c]).flatMap Text.Percent.triple else [c]

/-- Segments as a path: a slash in front of each. -/
def text (ss : List (List Char)) : List Char := ss.flatMap fun s => '/' :: s.flatMap encodeChar

/-- The separators of a path; a backslash counts in the schemes of the web. -/
def isSeparator (special : Bool) (c : Char) : Bool := c == '/' || (special && c == '\\')

/-- **The path that a written path stands for.**  The separator in front may be missing. -/
def normalize (special : Bool) (cs : List Char) : List Char :=
  match cs with
  | [] => if special then ['/'] else []
  | c :: rest =>
    text (resolve (segments (isSeparator special) (if isSeparator special c then rest else cs)))

end TenantGuard.Url.Path
