import TenantGuard.Json.Token

/-!
# Reading JSON values from tokens

One pass over the tokens with a stack of the arrays and objects that are still open.

* `read` reads the value at the start of a token list and gives back the tokens after it;
* `Json.parse?` reads a text that holds one value and nothing else;
* a `Pace` says what a reader insists on: `exact` refuses deep nesting, numbers too large to hold
  and texts that cannot be read, `skipping` checks the grammar alone.
-/

namespace TenantGuard.Json

/-- An array or an object that is still open, its contents so far in reverse. -/
inductive Frame where
  | array (done : List Json)
  | object (done : List (String × Json)) (name : String)
  deriving Repr

/-- **What may come next.** -/
inductive Mode where
  | value
  | itemOrEnd
  | name (done : List (String × Json))
  | nameOrEnd
  | colon (done : List (String × Json)) (name : String)
  | closed (v : Json)
  deriving Repr

/-- **What a reader insists on.** -/
inductive Pace where
  | exact
  | skipping
  deriving DecidableEq, Repr

/-- The deepest nesting that an exact reader accepts. -/
def maxDepth : Nat := 127

namespace Pace

def mayOpen (p : Pace) (stack : List Frame) : Bool :=
  p == skipping || stack.length < maxDepth

def text? (p : Pace) (s : Option String) : Option String :=
  match p, s with
  | _, some s => some s
  | skipping, none => some ""
  | exact, none => none

def number? (p : Pace) (n : Option Number) : Option Json :=
  match p, n with
  | _, some n => some (.number n)
  | skipping, none => some .null
  | exact, none => none

/-- A name of a member. -/
def name? (p : Pace) : Token → Option String
  | .text s => p.text? s
  | .undecodable => p.text? none
  | _ => none

end Pace

/-- A value that is a single token. -/
def scalar? (p : Pace) : Token → Option Json
  | .null => some .null
  | .boolean b => some (.boolean b)
  | .number n => p.number? n
  | .overlong => p.number? none
  | .text s => (p.text? s).map .text
  | .undecodable => (p.text? none).map .text
  | _ => none

/-- **Reads on** from a mode and a stack of open frames. -/
def read (p : Pace) : Mode → List Frame → List Token → Option (Json × List Token)
  | .closed v, [], ts => some (v, ts)
  | _, _, [] => none
  | .closed v, .array done :: stack, t :: ts =>
    match t with
    | .comma => read p .value (.array (v :: done) :: stack) ts
    | .endArray => read p (.closed (.array (v :: done).reverse)) stack ts
    | _ => none
  | .closed v, .object done n :: stack, t :: ts =>
    match t with
    | .comma => read p (.name ((n, v) :: done)) stack ts
    | .endObject => read p (.closed (.object ((n, v) :: done).reverse)) stack ts
    | _ => none
  | .colon done n, stack, t :: ts =>
    match t with
    | .colon => read p .value (.object done n :: stack) ts
    | _ => none
  | .name done, stack, t :: ts =>
    match p.name? t with
    | some n => read p (.colon done n) stack ts
    | none => none
  | .nameOrEnd, stack, t :: ts =>
    match t with
    | .endObject => read p (.closed (.object [])) stack ts
    | t => match p.name? t with
      | some n => read p (.colon [] n) stack ts
      | none => none
  | .value, stack, t :: ts =>
    match t with
    | .beginArray => if p.mayOpen stack then read p .itemOrEnd stack ts else none
    | .beginObject => if p.mayOpen stack then read p .nameOrEnd stack ts else none
    | t => match scalar? p t with
      | some v => read p (.closed v) stack ts
      | none => none
  | .itemOrEnd, stack, t :: ts =>
    match t with
    | .endArray => read p (.closed (.array [])) stack ts
    | .beginArray =>
      if p.mayOpen (.array [] :: stack) then read p .itemOrEnd (.array [] :: stack) ts else none
    | .beginObject =>
      if p.mayOpen (.array [] :: stack) then read p .nameOrEnd (.array [] :: stack) ts else none
    | t => match scalar? p t with
      | some v => read p (.closed v) (.array [] :: stack) ts
      | none => none

/-- The value at the start of a token list, and the tokens after it. -/
def readValue (ts : List Token) : Option (Json × List Token) := read .exact .value [] ts

/-- The tokens after the value at the start of a token list. -/
def skipValue (ts : List Token) : Option (List Token) := (read .skipping .value [] ts).map (·.2)

/-- **The value of a text** that holds one value and nothing else. -/
def parse? (s : String) : Option Json :=
  match readValue (Token.scanText s) with
  | some (v, []) => some v
  | _ => none

end TenantGuard.Json
