import TenantGuard.Auth.Identity
import TenantGuard.Fault.Wire
import TenantGuard.Json.Printer
import TenantGuard.Text.Utf8

/-!
# Requests and responses

HTTP messages as far as this system looks at them.  A header's name is in lower case and its value
is a sequence of bytes, which is a text only if all of it is visible ASCII: `visible?`.

* `Header.name?` and `Header.value?` read a name and a value from texts, `Header.read?` both;
* a `HeaderName` is a name that was read: `HeaderName.read?`.
-/

namespace TenantGuard.Http

/-- **A header.** -/
structure Header where
  name : String
  value : List UInt8
  deriving DecidableEq, Repr, Inhabited

namespace Header

def ofText (name text : String) : Header := ⟨name, Text.Utf8.bytes text⟩

/-- The characters of header names. -/
def isNameChar (c : Char) : Bool := c.isAlphanum || "!#$%&'*+-.^_|~\x60".toList.contains c

/-- The greatest length of a header's name. -/
def maxNameLength : Nat := 65535

/-- A header's name in lower case, if the text can be one. -/
def name? (s : String) : Option String :=
  if s.isEmpty ∨ maxNameLength < s.length ∨ !s.toList.all isNameChar then none
  else some (String.ofList (s.toList.map Char.toLower))

/-- The bytes of header values: no control characters but the tabulator. -/
def isValueByte (b : UInt8) : Bool := (32 ≤ b.toNat && b.toNat != 127) || b.toNat == 9

/-- A header's value, if the text can be one. -/
def value? (s : String) : Option (List UInt8) :=
  let bytes := Text.Utf8.bytes s
  if bytes.all isValueByte then some bytes else none

/-- **Reads a header** from a name and a value. -/
def read? (name value : String) : Option Header :=
  match name? name, value? value with
  | some n, some v => some ⟨n, v⟩
  | _, _ => none

theorem lt_of_isNameChar {c : Char} (h : isNameChar c = true) : c.toNat < 128 := by
  rw [isNameChar, Bool.or_eq_true] at h
  rcases h with h | h
  · have := Text.Utf8.toNat_of_isAlphanum h
    omega
  · have hall : ("!#$%&'*+-.^_|~\x60".toList.all fun d => d.toNat < 128) = true := by decide
    exact of_decide_eq_true (List.all_eq_true.1 hall c (List.contains_iff_mem.1 h))

theorem toLower_ascii : ∀ n < 128, isNameChar (Char.ofNat n) = true →
    isNameChar (Char.ofNat n).toLower = true ∧
      (Char.ofNat n).toLower.toLower = (Char.ofNat n).toLower := by
  decide

/-- The lower-case form of a name's character is one, and stays as it is. -/
theorem toLower_of_isNameChar {c : Char} (h : isNameChar c = true) :
    isNameChar c.toLower = true ∧ c.toLower.toLower = c.toLower := by
  have := toLower_ascii c.toNat (lt_of_isNameChar h)
  rw [Char.ofNat_toNat] at this
  exact this h

/-- A name that was read is read as it is. -/
theorem name?_of_name? {s n : String} (h : name? s = some n) : name? n = some n := by
  unfold name? at h
  split at h
  · simp at h
  next hs =>
  simp only [not_or, Bool.not_eq_true, Bool.not_eq_false', List.all_eq_true] at hs
  obtain ⟨hne, hle, hall⟩ := hs
  simp only [Option.some.injEq] at h
  subst h
  rw [name?, if_neg]
  · simp only [String.toList_ofList, List.map_map]
    congr 2
    exact List.map_congr_left fun c hm => (toLower_of_isNameChar (hall c hm)).2
  · simp only [not_or, Bool.not_eq_true, Bool.not_eq_false', List.all_eq_true,
      String.toList_ofList, String.length_ofList, List.length_map, List.forall_mem_map]
    refine ⟨by simpa using hne, ?_, fun c hm => (toLower_of_isNameChar (hall c hm)).1⟩
    rw [String.length_toList]
    exact hle

end Header

/-- **The name of a header**, in lower case. -/
structure HeaderName where
  text : String
  isName : Header.name? text = some text
  deriving DecidableEq, Repr

namespace HeaderName

instance : Inhabited HeaderName := ⟨⟨"x", by decide⟩⟩

/-- Reads a name. -/
def read? (s : String) : Option HeaderName :=
  match h : Header.name? s with
  | none => none
  | some n => some ⟨n, Header.name?_of_name? h⟩

end HeaderName

/-- The values of a name, in order. -/
def values (name : String) (hs : List Header) : List (List UInt8) :=
  (hs.filter (·.name == name)).map (·.value)

/-- The first value of a name. -/
def firstValue? (name : String) (hs : List Header) : Option (List UInt8) :=
  (values name hs).head?

def isVisible (b : UInt8) : Bool := (32 ≤ b.toNat && b.toNat < 127) || b.toNat == 9

/-- A value as a text, if all of it is visible ASCII. -/
def visible? (value : List UInt8) : Option (List Char) :=
  if value.all isVisible then some (value.map fun b => Char.ofNat b.toNat) else none

/-- Puts a header in place of all others of its name. -/
def setHeader (h : Header) (hs : List Header) : List Header :=
  hs.filter (·.name != h.name) ++ [h]

/-- **A request.** -/
structure Request where
  method : String
  /-- The path as it was sent, with its percent triples. -/
  path : String
  query : Option String := none
  headers : List Header := []
  body : List UInt8 := []
  deriving Repr, Inhabited

/-- **A response.** -/
structure Response where
  status : Nat
  headers : List Header := []
  body : List UInt8 := []
  deriving DecidableEq, Repr, Inhabited

namespace Response

/-- A document. -/
def ofJson (status : Nat) (j : Json) : Response :=
  { status, headers := [.ofText "content-type" "application/json"]
    body := Text.Utf8.bytes j.render }

/-- A plain text. -/
def ofText (status : Nat) (text : String) : Response :=
  { status, headers := [.ofText "content-type" "text/plain; charset=utf-8"]
    body := Text.Utf8.bytes text }

/-- The report of a fault. -/
def ofFault (now : Moment) (f : Fault) : Response := ofJson f.status (f.toWire now).toJson

/-- What a caller is told who is turned away. -/
def ofRefusal (r : Refusal) : Response := ofJson r.status r.toJson

/-- The envelope of a result. -/
def success (status : Nat) (data : Json) : Response :=
  ofJson status (.object [("success", .boolean true), ("data", data)])

/-- The envelope of an error that is known by a code alone. -/
def failure (status : Nat) (message code : String) : Response :=
  ofJson status
    (.object [("success", .boolean false), ("error", .text message), ("error_code", .text code)])

def withHeader (r : Response) (h : Header) : Response := { r with headers := setHeader h r.headers }

end Response

end TenantGuard.Http
