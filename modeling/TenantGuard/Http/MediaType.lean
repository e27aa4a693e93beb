import TenantGuard.Http.Message
import TenantGuard.Text.Blank
import TenantGuard.Text.Split

/-!
# Media types

What kind of body a request has, from its `Content-Type` header.

* `isJson`: the header is a well-formed media type and names JSON, or a format that is written in
  JSON;
* `isForm`: what stands before the first semicolon names form encoding.
-/

namespace TenantGuard.Http

/-- **A media type**, without its parameters.  The suffix stands behind the last plus of the
subtype. -/
structure MediaType where
  type : List Char
  subtype : List Char
  suffix : Option (List Char)
  deriving DecidableEq, Repr

namespace MediaType

def isToken (c : Char) : Bool := Header.isNameChar c

/-- The characters between the quotes of a parameter's value. -/
def isQuotable (c : Char) : Bool := 32 ≤ c.toNat && c.toNat != 127

mutual

/-- Whether a text is a list of parameters, without the semicolon in front. -/
def areParams : List Char → Bool
  | [] => true
  | ' ' :: cs => areParams cs
  | c :: cs => isToken c && isParamName cs

/-- Goes on in a parameter's name. -/
def isParamName : List Char → Bool
  | [] => false
  | '=' :: '"' :: c :: cs => isQuotable c && isQuoted cs
  | '=' :: ';' :: _ => false
  | '=' :: cs => isParamValue cs
  | c :: cs => isToken c && isParamName cs

/-- Goes on in a value without quotes. -/
def isParamValue : List Char → Bool
  | [] => true
  | ';' :: cs => areParams cs
  | c :: cs => isToken c && isParamValue cs

/-- Goes on in a value between quotes. -/
def isQuoted : List Char → Bool
  | [] => false
  | '"' :: cs => isBehindQuoted cs
  | c :: cs => isQuotable c && isQuoted cs

/-- Goes on behind a value between quotes. -/
def isBehindQuoted : List Char → Bool
  | [] => true
  | ';' :: cs => areParams cs
  | ' ' :: cs => isBehindQuoted cs
  | _ :: _ => false

end

/-- The subtype up to its last plus, and what stands behind it; a plus in front is not one. -/
def cutSuffix (cs : List Char) : List Char × Option (List Char) :=
  match Text.cutLast '+' cs with
  | some (c :: before, after) => (c :: before, some after)
  | _ => (cs, none)

/-- **Reads a media type.** -/
def parse? (cs : List Char) : Option MediaType :=
  match Text.cut '/' (cs.map Char.toLower) with
  | (type, some rest) =>
    let (name, params) := Text.cut ';' rest
    if type.isEmpty ∨ name.isEmpty ∨ !type.all isToken ∨ !name.all isToken ∨
        !(params.all areParams) then none
    else
      let (subtype, suffix) := cutSuffix name
      some { type, subtype, suffix }
  | (_, none) => none

/-- Whether a media type is JSON or written in JSON. -/
def namesJson (m : MediaType) : Bool :=
  m.type == "application".toList &&
    (m.subtype == "json".toList || m.suffix == some "json".toList)

end MediaType

/-- The first `Content-Type` header, if it is a text. -/
def contentType? (hs : List Header) : Option (List Char) :=
  (firstValue? "content-type" hs).bind visible?

/-- **Whether a body says that it is JSON.** -/
def isJson (hs : List Header) : Bool :=
  ((contentType? hs).bind MediaType.parse?).any MediaType.namesJson

/-- Whether a value of `Content-Type` names form encoding. -/
def namesForm (value : List Char) : Bool :=
  (Text.trim (Text.cut ';' value).1).map Char.toLower == "application/x-www-form-urlencoded".toList

/-- **Whether a body says that it is form-encoded.** -/
def isForm (hs : List Header) : Bool := (contentType? hs).any namesForm

end TenantGuard.Http
