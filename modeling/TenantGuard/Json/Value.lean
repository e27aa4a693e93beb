import TenantGuard.Decimal.Binary64

/-!
# JSON values

An object keeps its members in order and may hold a name twice; `Json.member?` finds the last one
of a name, `Json.normal` keeps only that one.  A number keeps its kind: a natural number below
`2 ^ 64`, a negative integer not below `-2 ^ 63`, or a finite double.
-/

namespace TenantGuard

open Decimal (Binary64)

namespace Json

/-- **A number by its kind.**  `negative n` stands for `-n`, with `n` not zero. -/
inductive Number where
  | natural (n : Nat)
  | negative (n : Nat)
  | float (x : Binary64)
  deriving DecidableEq, Repr, Inhabited

namespace Number

def toInt? : Number → Option Int
  | natural n => some n
  | negative n => some (-n)
  | float _ => none

/-- The decimal text of a number. -/
def toText : Number → String
  | natural n => toString n
  | negative n => "-" ++ toString n
  | float x => x.toPretty

end Number

end Json

/-- **A JSON value.** -/
inductive Json where
  | null
  | boolean (b : Bool)
  | number (n : Json.Number)
  | text (s : String)
  | array (items : List Json)
  | object (members : List (String × Json))
  deriving Repr, Inhabited, BEq

namespace Json

def ofNat (n : Nat) : Json := .number (.natural n)

/-- A missing text is `null`. -/
def ofOption (o : Option String) : Json := o.elim .null .text

/-- The last of the members of a name. -/
def lastOf (name : String) (members : List (String × Json)) : Option Json :=
  members.reverse.lookup name

/-- The member of a name; where an object holds the name twice, the last one. -/
def member? (name : String) : Json → Option Json
  | object members => lastOf name members
  | _ => none

def text? : Json → Option String
  | text s => some s
  | _ => none

def bool? : Json → Option Bool
  | boolean b => some b
  | _ => none

def nat? : Json → Option Nat
  | number (.natural n) => some n
  | _ => none

def items? : Json → Option (List Json)
  | array xs => some xs
  | _ => none

/-- Sets a member of a list of members: in its place when the name is there, else at the end. -/
def setMember (name : String) (v : Json) : List (String × Json) → List (String × Json)
  | [] => [(name, v)]
  | (n, w) :: rest => if n = name then (name, v) :: rest else (n, w) :: setMember name v rest

/-- The members of which the value is there, in order. -/
def present (members : List (String × Option Json)) : List (String × Json) :=
  members.filterMap fun (name, v) => v.map (name, ·)

mutual

/-- How deep arrays and objects are nested; a value without contents of its own is flat. -/
def depth : Json → Nat
  | array items => itemsDepth items + 1
  | object members => membersDepth members + 1
  | null | boolean _ | number _ | text _ => 0

def itemsDepth : List Json → Nat
  | [] => 0
  | v :: vs => max v.depth (itemsDepth vs)

def membersDepth : List (String × Json) → Nat
  | [] => 0
  | (_, v) :: ms => max v.depth (membersDepth ms)

end

end Json

end TenantGuard
