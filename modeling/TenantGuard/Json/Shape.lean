import TenantGuard.Json.Reader
import TenantGuard.Moment.Text

/-!
# Reading a document of a known shape

A request body or a token's claims must have a known shape.  `Shape.read` checks a token list
against a shape from left to right, so that of several faults the first one counts, and gives the
value in a fixed form: a record is an object with one member for each of its fields.

* a text that is no JSON up to the point where the fault shows is `malformed`, a value of the wrong
  kind is `misshapen`;
* a record is written as an object, with members of other names skipped, or as an array of its
  fields in order;
* a field of an optional shape may be missing from an object, and one with a default from the end of
  an array as well.
-/

namespace TenantGuard.Json

/-- **The shapes of documents.** -/
inductive Shape where
  | text
  | boolean
  | integer (least greatest : Int)
  /-- A text that holds an instant. -/
  | instant
  /-- One of some names, as a text or as an object from that name to `null`. -/
  | oneOf (names : List String)
  /-- Any value without contents. -/
  | plain
  /-- Any object, as deep as a member of a record may be. -/
  | anyObject
  | optional (s : Shape)
  /-- A field that may be missing, and what then stands for it. -/
  | defaulting (s : Shape) (absent : Json)
  | listOf (s : Shape)
  | record (fields : List (String × Shape))
  deriving Repr, Inhabited

/-- **What is wrong with a document.** -/
inductive ShapeFault where
  | malformed
  | misshapen
  deriving DecidableEq, Repr

/-- A value of the wrong kind: it must at least begin like a value. -/
def wrongKind (t : Option Token) : ShapeFault :=
  match t with
  | some (.null) | some (.boolean _) | some (.number (some _)) | some (.text (some _))
  | some .beginArray | some .beginObject => .misshapen
  | _ => .malformed

/-- The members of a record in the order of its fields; a missing field is `null` where its shape is
optional, and its default where it has one. -/
def fillRecord (fields : List (String × Shape)) (found : List (String × Json)) :
    Except ShapeFault Json := do
  let members ← fields.mapM fun (name, s) =>
    match found.lookup name, s with
    | some v, _ => .ok (name, v)
    | none, .optional _ => .ok (name, Json.null)
    | none, .defaulting _ absent => .ok (name, absent)
    | none, _ => .error .misshapen
  return .object members

/-- The members for fields that an array leaves out at its end; each must have a default. -/
def defaults? : List (String × Shape) → Option (List (String × Json))
  | [] => some []
  | (name, .defaulting _ absent) :: fields => (defaults? fields).map ((name, absent) :: ·)
  | _ => none

/-- What closes an array after the fields of a record. -/
def endOfArray : List Token → Except ShapeFault (Unit × List Token)
  | .endArray :: ts => .ok ((), ts)
  | _ => .error .malformed

mutual

/-- Reads a value of a shape.  The first argument bounds the number of steps; each step but the
first takes a token, or leaves a list of fields shorter. -/
def readShape : Nat → Shape → List Token → Except ShapeFault (Json × List Token)
  | 0, _, _ => .error .malformed
  | n + 1, s, ts =>
    match s, ts with
    | .text, .text (some s) :: ts => .ok (.text s, ts)
    | .boolean, .boolean b :: ts => .ok (.boolean b, ts)
    | .integer least greatest, .number (some k) :: ts =>
      match k.toInt? with
      | some i => if least ≤ i ∧ i ≤ greatest then .ok (.number k, ts) else .error .misshapen
      | none => .error .misshapen
    | .instant, .text (some s) :: ts =>
      if (Moment.readLoose? s).isSome then .ok (.text s, ts) else .error .misshapen
    | .oneOf names, .text (some s) :: ts =>
      if names.contains s then .ok (.text s, ts) else .error .misshapen
    | .oneOf names, .beginObject :: ts => readVariant names ts
    | .oneOf _, _ => .error .malformed
    | .plain, .null :: ts => .ok (.null, ts)
    | .plain, .boolean b :: ts => .ok (.boolean b, ts)
    | .plain, .number k :: ts => .ok (k.elim .null .number, ts)
    | .plain, .text (some s) :: ts => .ok (.text s, ts)
    | .plain, .undecodable :: ts => .ok (.null, ts)
    | .plain, .beginArray :: .endArray :: ts => .ok (.array [], ts)
    | .plain, .beginObject :: .endObject :: ts => .ok (.object [], ts)
    | .plain, _ => .error .malformed
    | .anyObject, .beginObject :: ts =>
      match readValue (.beginObject :: ts) with
      | some (v, ts) => if v.depth < maxDepth then .ok (v, ts) else .error .malformed
      | none => .error .malformed
    | .optional _, .null :: ts => .ok (.null, ts)
    | .optional s, ts => readShape n s ts
    | .defaulting s _, ts => readShape n s ts
    | .listOf _, .beginArray :: .endArray :: ts => .ok (.array [], ts)
    | .listOf s, .beginArray :: ts => readItems n s [] ts
    | .record fields, .beginArray :: ts => readFields n fields [] true ts
    | .record fields, .beginObject :: .endObject :: ts => do
      return (← fillRecord fields [], ts)
    | .record fields, .beginObject :: ts => readMembers n fields [] ts
    | _, ts => .error (wrongKind ts.head?)

/-- A name of a choice in the form of an object: the name, then `null`. -/
def readVariant (names : List String) : List Token → Except ShapeFault (Json × List Token)
  | .text (some s) :: ts =>
    if !names.contains s then .error .misshapen else
    match ts with
    | .colon :: .null :: .endObject :: ts => .ok (.text s, ts)
    | .colon :: .null :: _ => .error .malformed
    | .colon :: ts => .error (wrongKind ts.head?)
    | _ => .error .malformed
  | ts => .error (wrongKind ts.head?)

/-- The items of a list from the next one on. -/
def readItems : Nat → Shape → List Json → List Token → Except ShapeFault (Json × List Token)
  | 0, _, _, _ => .error .malformed
  | n + 1, s, done, ts => do
    let (v, ts) ← readShape n s ts
    match ts with
    | .comma :: ts => readItems n s (v :: done) ts
    | .endArray :: ts => .ok (.array (v :: done).reverse, ts)
    | _ => .error .malformed

/-- The fields of a record that is written as an array, from the next one on. -/
def readFields : Nat → List (String × Shape) → List (String × Json) → Bool → List Token →
    Except ShapeFault (Json × List Token)
  | 0, _, _, _, _ => .error .malformed
  | _ + 1, [], done, _, ts => do
    let ((), ts) ← endOfArray ts
    return (.object done.reverse, ts)
  | n + 1, (name, s) :: fields, done, first, ts =>
    match first, ts with
    | _, .endArray :: ts =>
      match defaults? ((name, s) :: fields) with
      | some rest => .ok (.object (done.reverse ++ rest), ts)
      | none => .error .misshapen
    | true, ts => do
      let (v, ts) ← readShape n s ts
      readFields n fields ((name, v) :: done) false ts
    | false, .comma :: .endArray :: _ => .error .malformed
    | false, .comma :: ts => do
      let (v, ts) ← readShape n s ts
      readFields n fields ((name, v) :: done) false ts
    | false, _ => .error .malformed

/-- The members of a record that is written as an object, from the next name on. -/
def readMembers : Nat → List (String × Shape) → List (String × Json) → List Token →
    Except ShapeFault (Json × List Token)
  | 0, _, _, _ => .error .malformed
  | n + 1, fields, found, .text (some name) :: ts => do
    let (found, ts) ← match fields.lookup name with
      | some s =>
        if (found.lookup name).isSome then .error .misshapen
        else match ts with
          | .colon :: ts => do
            let (v, ts) ← readShape n s ts
            .ok ((name, v) :: found, ts)
          | _ => .error .malformed
      | none => match ts with
        | .colon :: ts => match skipValue ts with
          | some ts => .ok (found, ts)
          | none => .error .malformed
        | _ => .error .malformed
    match ts with
    | .comma :: ts => readMembers n fields found ts
    | .endObject :: ts => do return (← fillRecord fields found, ts)
    | _ => .error .malformed
  | _, _, _, _ => .error .malformed

end

mutual

/-- The number of shapes and fields within a shape. -/
def Shape.size : Shape → Nat
  | .optional s => s.size + 1
  | .defaulting s _ => s.size + 1
  | .listOf s => s.size + 1
  | .record fields => fieldSizes fields + 1
  | .text | .boolean | .integer _ _ | .instant | .oneOf _ | .plain | .anyObject => 1

def fieldSizes : List (String × Shape) → Nat
  | [] => 1
  | (_, s) :: fields => s.size + fieldSizes fields + 1

end

/-- **Reads a document of a shape** from the start of a token list. -/
def Shape.readTokens (s : Shape) (ts : List Token) : Except ShapeFault (Json × List Token) :=
  readShape (2 * (ts.length + 1) * (s.size + 1)) s ts

/-- The document at the start of some bytes, whatever follows it. -/
def Shape.readFirst (s : Shape) (bytes : List UInt8) : Except ShapeFault Json :=
  (s.readTokens (Token.scan (octets bytes))).map (·.1)

/-- The document that bytes hold, and nothing else. -/
def Shape.readWhole? (s : Shape) (bytes : List UInt8) : Option Json :=
  match s.readTokens (Token.scan (octets bytes)) with
  | .ok (v, []) => some v
  | _ => none

end TenantGuard.Json
