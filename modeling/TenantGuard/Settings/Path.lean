import TenantGuard.Json.Value

/-!
# Paths into settings

A path leads from a table to one of its values: a name, followed by steps, each the name of a member
(`.name`) or the place of an element (`[2]`).  Negative places count from the end of a list.

* `Path.parse?` reads a path;
* `Path.set` puts a value where a path leads and makes the tables and lists on the way.  Only the
  last name is put in lower case, the others are taken as they are.  Of a list that is too short
  the missing elements are `null`.
-/

namespace TenantGuard.Settings

/-- The lower case of a letter.  Besides the letters of ASCII, one more letter has a lower case in
ASCII: the Kelvin sign. -/
def lowerChar (c : Char) : Char := if c = '\u212a' then 'k' else c.toLower

/-- Names are compared in lower case. -/
def lower (s : String) : String := String.ofList (s.toList.map lowerChar)

/-- A step of a path: to the member of a name, or to the element at a place. -/
inductive Step where
  | name (s : String)
  | place (i : Int)
  deriving DecidableEq, Repr

/-- **A path**, one step after the other. -/
abbrev Path := List Step

namespace Path

/-! ## Reading -/

/-- The characters of names in paths. -/
def isNameChar (c : Char) : Bool := c.isAlphanum || c == '_' || c == '-' || c == ' '

def isGap (c : Char) : Bool := c == ' ' || c == '\t'

/-- A name at the start of a text, and what follows it. -/
def name? (cs : List Char) : Option (Step × List Char) :=
  let name := cs.takeWhile isNameChar
  if name.isEmpty then none else some (.name (String.ofList name), cs.dropWhile isNameChar)

/-- The value of decimal digits, of which there must be some. -/
def digits? (cs : List Char) : Option Nat :=
  if cs.isEmpty || !cs.all Char.isDigit then none
  else some (cs.foldl (fun n c => 10 * n + (c.toNat - '0'.toNat)) 0)

/-- A place between brackets: an integer of 64 bits, with blanks around it. -/
def integer? (cs : List Char) : Option Int :=
  let cs := ((cs.dropWhile isGap).reverse.dropWhile isGap).reverse
  match cs with
  | '-' :: ds => (digits? ds).bind fun n => if n ≤ Nat.pow 2 63 then some (-(n : Int)) else none
  | ds => (digits? ds).bind fun n => if n < Nat.pow 2 63 then some (n : Int) else none

/-- The steps that a text spells; the first argument bounds their number. -/
def steps? : Nat → List Char → Option Path
  | _, [] => some []
  | 0, _ => none
  | k + 1, c :: cs => do
    if c = '.' then
      let (step, rest) ← name? cs
      return step :: (← steps? k rest)
    else if c = '[' then
      match cs.dropWhile (· != ']') with
      | [] => none
      | _ :: rest => return .place (← integer? (cs.takeWhile (· != ']'))) :: (← steps? k rest)
    else none

/-- **Reads a path.** -/
def parse? (key : String) : Option Path := do
  let (step, rest) ← name? key.toList
  return step :: (← steps? rest.length rest)

/-- The path that a key stands for; a text that is no path is one name. -/
def ofKey (key : String) : Path := (parse? key).getD [.name key]

/-! ## Setting -/

/-- The members of a table; what is no table has none. -/
def members : Json → List (String × Json)
  | .object ms => ms
  | _ => []

/-- The elements of a list; what is no list has none. -/
def elements : Json → List Json
  | .array xs => xs
  | _ => []

mutual

/-- Puts a value under a name.  An object is merged into what is there, name by name. -/
def setName (name : String) (v : Json) (table : Json) : Json :=
  match v with
  | .object incoming =>
    let target := ((members table).lookup (lower name)).getD (.object [])
    .object (Json.setMember (lower name) (merge incoming target) (members table))
  | v => .object (Json.setMember (lower name) v (members table))

/-- Puts each member under its name. -/
def merge (incoming : List (String × Json)) (table : Json) : Json :=
  match incoming with
  | [] => table
  | (name, v) :: rest => merge rest (setName name v table)

end

/-- The index that a place stands for in a list of some length.  There is none before the start. -/
def index? (i : Int) (length : Nat) : Option Nat :=
  match i with
  | .ofNat n => some n
  | .negSucc n => if n < length then some (length - (n + 1)) else none

/-- The list with `null`s behind it, so that there is an element at the index. -/
def padded (xs : List Json) (i : Nat) : List Json := xs ++ List.replicate (i + 1 - xs.length) .null

/-- **Puts a value where a path leads.** -/
def set (path : Path) (v : Json) (target : Json) : Json :=
  match path with
  | [] => v
  | [.name name] => setName name v target
  | .name name :: path =>
    let child := ((members target).lookup name).getD .null
    .object (Json.setMember name (set path v child) (members target))
  | .place i :: path =>
    let xs := elements target
    match index? i xs.length with
    | none => .array xs
    | some i => .array ((padded xs i).modify i (set path v))

end Path

end TenantGuard.Settings
