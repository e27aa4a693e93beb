import TenantGuard.Text.Base64
import TenantGuard.Text.Blank
import TenantGuard.Text.Split

/-!
# PEM documents

A PEM document holds bytes in base64 between two lines that name what they are.  `Pem.parse?` reads
the first document of a text.

* What stands before the document and behind it does not count.
* Headers may come before the base64 text; a blank line ends them, and each holds a colon.
* A mark is found by going through the text once (`cutAt?`): a character that breaks off the start
  of a mark begins no new one, so six hyphens do not hold the five of a mark behind them.
-/

namespace TenantGuard.Crypto

/-- **A PEM document**: a label and bytes. -/
structure Pem where
  label : List Char
  contents : List UInt8
  deriving DecidableEq, Repr

namespace Pem

/-- Goes on looking for a mark of which the first characters were found, the last one first; gives
what stands before the mark and behind it. -/
def cutFrom (mark found : List Char) : List Char → List Char → Option (List Char × List Char)
  | [], rest => some ([], rest)
  | _ :: _, [] => none
  | m :: ms, c :: cs =>
    if c = m then cutFrom mark (c :: found) ms cs
    else (cutFrom mark [] mark cs).map fun (before, after) =>
      (found.reverse ++ c :: before, after)
termination_by _ rest => rest.length

/-- What stands before the first occurrence of a mark, and what stands behind it. -/
def cutAt? (mark : List Char) (cs : List Char) : Option (List Char × List Char) :=
  cutFrom mark [] mark cs

/-- The headers and what stands behind them; a blank line ends them. -/
def cutHeaders (body : List Char) : List Char × List Char :=
  ((cutAt? ['\n', '\n'] body) <|> (cutAt? ['\r', '\n', '\r', '\n'] body)).getD ([], body)

/-- Whether each line of the headers holds a colon. -/
def areHeaders (headers : List Char) : Bool :=
  headers.isEmpty || ((Text.splitOn '\n' headers).all (·.contains ':'))

def isLineBlank (c : Char) : Bool := c == ' ' || c == '\t' || c == '\n' || c == '\r'

/-- **The first PEM document of a text.** -/
def parse? (s : String) : Option Pem := do
  let (_, rest) ← cutAt? "-----BEGIN ".toList s.toList
  let (label, rest) ← cutAt? "-----".toList rest
  let (body, rest) ← cutAt? "-----END ".toList (rest.dropWhile isLineBlank)
  let (closing, _) ← cutAt? "-----".toList rest
  let (headers, data) := cutHeaders body
  if label.isEmpty ∨ label ≠ closing ∨ !areHeaders headers then none
  else do
    let contents ← Text.Base64.decodePadded? Text.Base64.standard (data.filter (!Text.isBlank ·))
    return { label, contents }

end Pem

end TenantGuard.Crypto
