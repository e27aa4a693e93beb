import TenantGuard.Json.Reader
import TenantGuard.Settings.Path

/-!
# Sources of settings

Settings come from a document and from variables of the environment, which override it.  Both are
put into one tree, in which names are in lower case.  `variablePath?` says which path a variable
stands for.
-/

namespace TenantGuard.Settings

/-! ## Variables -/

/-- What every variable's name starts with, in any case. -/
def variableStart : List Char := "scopegate__".toList

/-- A text with a point in place of each double underscore. -/
def underscoresToPoints : List Char → List Char
  | '_' :: '_' :: cs => '.' :: underscoresToPoints cs
  | c :: cs => c :: underscoresToPoints cs
  | [] => []

/-- The path that a variable stands for, if its name starts as it must. -/
def variablePath? (name : String) : Option Path :=
  let cs := name.toList.map lowerChar
  if variableStart.isPrefixOf cs then
    some (Path.ofKey (String.ofList (underscoresToPoints (cs.drop variableStart.length))))
  else none

/-! ## The tree -/

/-- **The tree of a document and of variables.** -/
def tree (document : List (String × Json)) (vars : List (String × String)) : Json :=
  let fromDocument := document.foldl (fun t (k, v) => (Path.ofKey k).set v t) (.object [])
  vars.foldl (fun t (k, v) => match variablePath? k with
    | some path => path.set (.text v) t
    | none => t) fromDocument

/-- The last member of each name, in the order of the names. -/
def sortedMembers (ms : List (String × Json)) : List (String × Json) :=
  (ms.foldl (fun found (k, v) => Json.setMember k v found) []).mergeSort fun a b => a.1 ≤ b.1

end TenantGuard.Settings
