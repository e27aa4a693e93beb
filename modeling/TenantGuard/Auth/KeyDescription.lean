import TenantGuard.Json.Value

/-!
# Descriptions of keys

The header of a signed token may describe a key.  The description is never used to check the token,
but it must be one: `isKeyDescription`.

* Its members of general kind, such as `use` and `kid`, hold texts, lists of texts or nothing, and
  none of them stands twice.
* The other members must make a key of one kind (`KeyKind`); what a kind does not ask for does not
  count.
-/

namespace TenantGuard

namespace KeyDescription

/-- The members of a name. -/
def named (name : String) (members : List (String × Json)) : List Json :=
  (members.filter (·.1 == name)).map (·.2)

/-! ## General members -/

/-- General members that hold a text. -/
def textNames : List String := ["use", "kid", "x5u", "x5t", "x5t#S256"]

/-- General members that hold a list of texts. -/
def listNames : List String := ["key_ops", "x5c"]

def isText (j : Json) : Bool := j.text?.isSome

def isTextList : Json → Bool
  | .array items => items.all isText
  | _ => false

/-- An algorithm's name, as a text or as the name of an object's only member, which is empty. -/
def isAlgorithm : Json → Bool
  | .text _ => true
  | .object [(_, v)] => v == .null || v == .object []
  | _ => false

/-- Whether the members of a name are at most one, which is `null` or passes a test. -/
def isOptional (test : Json → Bool) (members : List (String × Json)) (name : String) : Bool :=
  match named name members with
  | [] => true
  | [v] => v == .null || test v
  | _ => false

def hasGeneralMembers (members : List (String × Json)) : Bool :=
  textNames.all (isOptional isText members) && listNames.all (isOptional isTextList members) &&
    isOptional isAlgorithm members "alg"

/-! ## Kinds -/

/-- **A kind of key**: its name, whether it names a curve, and its members that hold texts. -/
structure KeyKind where
  name : String
  hasCurve : Bool
  texts : List String
  deriving DecidableEq, Repr, Inhabited

def kinds : List KeyKind :=
  [⟨"EC", true, ["x", "y"]⟩, ⟨"RSA", false, ["n", "e"]⟩, ⟨"oct", false, ["k"]⟩,
   ⟨"OKP", true, ["x"]⟩]

def curves : List String := ["P-256", "P-384", "P-521", "Ed25519"]

/-- One of some names, as a text or as the name of an object's only member, which is `null`. -/
def isOneOf (names : List String) : Json → Bool
  | .text s => names.contains s
  | .object [(s, .null)] => names.contains s
  | _ => false

/-- Whether there is one member of a name, and it passes a test. -/
def isOnce (test : Json → Bool) (members : List (String × Json)) (name : String) : Bool :=
  match named name members with
  | [v] => test v
  | _ => false

/-- Whether members make a key of a kind. -/
def KeyKind.isMadeOf (k : KeyKind) (members : List (String × Json)) : Bool :=
  isOnce (isOneOf [k.name]) members "kty" && k.texts.all (isOnce isText members) &&
    (!k.hasCurve || isOnce (isOneOf curves) members "crv")

end KeyDescription

/-- **Whether a value describes a key.** -/
def isKeyDescription : Json → Bool
  | .object members =>
    KeyDescription.hasGeneralMembers members && KeyDescription.kinds.any (·.isMadeOf members)
  | _ => false

end TenantGuard
