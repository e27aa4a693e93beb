import TenantGuard.Query.Dialect
import TenantGuard.Text.Blank

/-!
# Query expressions

An expression is read from left to right by a scanner that knows string literals, comments and
three kinds of brackets.  It is accepted when every bracket closes its partner, every literal ends
and nothing is left open.  Then a filter for one resource can be put around it: the client's text
stays inside the parentheses that the filter adds.

* `Scan.step` takes one character; `check` scans a whole text and says whether it holds a comment;
* `injectFilter` wraps an accepted expression.
-/

namespace TenantGuard.Expression

open Text (trim)

/-- **Where the scanner is**: in code, inside a literal, right behind a backslash of a literal, or
inside a comment. -/
inductive Place where
  | code
  | literal (quote : Char)
  | escaped (quote : Char)
  | comment
  deriving DecidableEq, Repr

/-- **The scanner's state**: its place, the brackets that are open (the innermost first) and whether
there was a comment. -/
structure Scan where
  place : Place := .code
  opened : List Char := []
  hasComment : Bool := false
  deriving DecidableEq, Repr

/-- The opening bracket that a closing bracket belongs to. -/
def partner? : Char → Option Char
  | ')' => some '('
  | ']' => some '['
  | '}' => some '{'
  | _ => none

def isOpening (c : Char) : Bool := c == '(' || c == '[' || c == '{'

namespace Scan

/-- One character of code. -/
def stepCode (d : Dialect) (s : Scan) (c : Char) : Except QueryFault Scan :=
  if Dialect.isQuote c then .ok { s with place := .literal c }
  else if c = '#' then
    match d with
    | .metrics => .ok { s with place := .comment, hasComment := true }
    | .logs => .error .commentNotAllowed
  else if isOpening c then .ok { s with opened := c :: s.opened }
  else match partner? c with
    | none => .ok s
    | some p =>
      match s.opened with
      | o :: rest => if o = p then .ok { s with opened := rest } else .error (.unbalanced c)
      | [] => .error (.unbalanced c)

/-- **Takes one character.** -/
def step (d : Dialect) (s : Scan) (c : Char) : Except QueryFault Scan :=
  match s.place with
  | .code => stepCode d s c
  | .literal q =>
    if c = '\\' then
      if d.hasEscapes q then .ok { s with place := .escaped q } else .error .escapeNotSupported
    else if c = q then .ok { s with place := .code }
    else .ok s
  | .escaped q => .ok { s with place := .literal q }
  | .comment => if c = '\n' then .ok { s with place := .code } else .ok s

/-- Scans a text from a state. -/
def run (d : Dialect) (s : Scan) (cs : List Char) : Except QueryFault Scan := cs.foldlM (step d) s

/-- Whether a text may end in a state. -/
def finish (s : Scan) : Except QueryFault Scan :=
  match s.place, s.opened with
  | .literal _, _ => .error .unterminatedLiteral
  | .escaped _, _ => .error .unterminatedLiteral
  | _, c :: _ => .error (.unclosed c)
  | _, [] => .ok s

end Scan

/-- **Accepts balanced expressions**, and says whether there is a comment. -/
def check (d : Dialect) (cs : List Char) : Except QueryFault Bool := do
  let s ← Scan.run d {} cs
  return (← s.finish).hasComment

/-- The expression with the filter around it.  A comment is ended by a line break, so that it does
not take in the filter. -/
def wrap (d : Dialect) (expression : String) (hasComment : Bool) (resourceId : String) : String :=
  match d with
  | .logs => d.resourceFilter resourceId ++ " AND (" ++ expression ++ ")"
  | .metrics =>
    "(" ++ expression ++ (if hasComment then "\n" else "") ++ ") and on(resource_id) " ++
      d.resourceFilter resourceId

/-- **Restricts an expression** to what carries the resource's label.  An empty expression becomes
the filter alone. -/
def injectFilter (d : Dialect) (expression resourceId : String) : Except QueryFault String := do
  let e := trim expression.toList
  let hasComment ← check d e
  if e.isEmpty then return d.resourceFilter resourceId
  return wrap d (String.ofList e) hasComment resourceId

end TenantGuard.Expression
