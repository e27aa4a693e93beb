import TenantGuard.Text.Blank
import TenantGuard.Text.Split

/-!
# Email addresses

An invitation goes to an address of the form `local@domain`.  `Email.isValid` decides which texts
are such addresses; opaque subject names and bare identifiers are not.
-/

namespace TenantGuard.Email

open Text (isBlank splitOn)

/-- The characters allowed in the local part besides letters, digits and the dot. -/
def localSpecials : List Char := "!#$%&'*+/=?^_\x60\x7b\x7d~-".toList

def isLocalChar (c : Char) : Bool := c.isAlphanum || c == '.' || localSpecials.contains c

/-- Whether two dots stand side by side. -/
def hasDoubleDot : List Char → Bool
  | '.' :: '.' :: _ => true
  | _ :: cs => hasDoubleDot cs
  | [] => false

def isLocalPart (cs : List Char) : Bool :=
  !cs.isEmpty && cs.head? != some '.' && cs.getLast? != some '.' && !hasDoubleDot cs &&
    cs.all isLocalChar

def isLabel (cs : List Char) : Bool :=
  !cs.isEmpty && cs.head? != some '-' && cs.getLast? != some '-' &&
    cs.all fun c => c.isAlphanum || c == '-'

/-- The last label: letters only, and at least two. -/
def isTopLabel (cs : List Char) : Bool := 2 ≤ cs.length && cs.all Char.isAlpha

def isDomain (cs : List Char) : Bool :=
  let labels := splitOn '.' cs
  2 ≤ labels.length && labels.all isLabel && labels.getLast?.any isTopLabel

/-- **Whether a text is an email address** that an invitation can be sent to. -/
def isValid (s : String) : Bool :=
  let cs := s.toList
  !cs.isEmpty && !cs.any isBlank &&
    match splitOn '@' cs with
    | [localPart, domain] => isLocalPart localPart && isDomain domain
    | _ => false

end TenantGuard.Email
