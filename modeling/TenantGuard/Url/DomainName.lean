import TenantGuard.Text.Composed
import TenantGuard.Text.Direction
import TenantGuard.Text.Joining
import TenantGuard.Text.Split
import TenantGuard.Url.DomainName.Mapping
import TenantGuard.Url.Punycode

/-!
# Domain names

`DomainName.parse?` says which name a written name stands for.  Each character is replaced by what
it stands for, and the text is composed.  Then each label between points must be sound:

* a label that starts with `xn--` is written with ASCII; decoded it must hold a character beyond
  ASCII, be composed, and hold only characters that stand for themselves;
* no label starts with a mark, and joiners stand only where they make a difference;
* if any label holds a letter that is written from right to left, every label keeps to one
  direction.
-/

namespace TenantGuard.Url.DomainName

/-- The start of a label that is written with ASCII. -/
def encodedStart : List Char := "xn--".toList

def isAscii (c : Char) : Bool := c.toNat < 0x80

/-- What becomes of all characters of a written name. -/
def images? (cs : List Char) : Option (List Char) := (cs.mapM image).map List.flatten

/-- The label that is written with ASCII behind its start. -/
def decodedLabel? (cs : List Char) : Option (List Char) := do
  if 2000 < cs.length ∨ !cs.all isAscii then none
  else do
    let label ← Punycode.decode? cs
    if label.all isAscii || !label.all isPlain || Text.composed label != label then none
    else return label

/-- A label as it is read; one beyond ASCII that is very long is refused. -/
def label? (cs : List Char) : Option (List Char) :=
  match Text.after? encodedStart cs with
  | some rest => decodedLabel? rest
  | none => if 1000 < cs.length ∧ !cs.all isAscii then none else some cs

/-- Whether a label is sound, apart from its direction. -/
def isSound (label : List Char) : Bool :=
  !label.head?.any Text.isMark && Text.hasFitJoiners Text.isVowelKiller label

/-- **The name that a written name stands for.** -/
def parse? (cs : List Char) : Option (List Char) := do
  let labels ← (Text.splitOn '.' (Text.composed (← images? cs))).mapM label?
  if !labels.all isSound then none
  else if labels.any Text.hasRightward && !labels.all Text.isSteady then none
  else return Text.joinWith '.' labels

end TenantGuard.Url.DomainName
