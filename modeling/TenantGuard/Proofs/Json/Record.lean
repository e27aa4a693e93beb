import TenantGuard.Json.Shape
import TenantGuard.Proofs.Lookup
import TenantGuard.Proofs.Query.Restriction

/-!
# One document read under two shapes

A record takes its fields from a document by their names and skips the rest, so that two records
read what they have in common alike.

* `Plain` are the values of one token, or without contents: a flat shape reads such values alone,
  and each of them as what it is (`plain_of_readShape`);
* `Members` cuts an object at its members without looking into them, and `members_of_readMembers`
  says that a record of flat fields finds the value of a field where the object names it;
* `values_of_object` gives the fields of a record that is written as an object, and
  `first_of_array` the first field of one that is written as an array;
* `scan_eq_scanWithin` bounds the steps that a document takes to read.
-/

namespace TenantGuard.Json

variable {n m : Nat} {s : Shape} {ts rest rest' : List Token} {v w : Json}

/-- **Shapes of values without contents.** -/
def Shape.isFlat : Shape → Bool
  | .text | .boolean | .integer _ _ | .instant | .plain => true
  | .optional s | .defaulting s _ => s.isFlat
  | .oneOf _ | .anyObject | .listOf _ | .record _ => false

/-- **A value without contents**, the tokens it is written with and those behind it. -/
inductive Plain : List Token → Json → List Token → Prop where
  | null (ts : List Token) : Plain (.null :: ts) .null ts
  | boolean (b : Bool) (ts : List Token) : Plain (.boolean b :: ts) (.boolean b) ts
  | number (k : Option Number) (ts : List Token) :
    Plain (.number k :: ts) (k.elim .null .number) ts
  | text (s : String) (ts : List Token) : Plain (.text (some s) :: ts) (.text s) ts
  | undecodable (ts : List Token) : Plain (.undecodable :: ts) .null ts
  | array (ts : List Token) : Plain (.beginArray :: .endArray :: ts) (.array []) ts
  | object (ts : List Token) : Plain (.beginObject :: .endObject :: ts) (.object []) ts

theorem Plain.unique (h : Plain ts v rest) (h' : Plain ts w rest') : v = w ∧ rest = rest' := by
  cases h <;> cases h' <;> exact ⟨rfl, rfl⟩

/-- A value without contents is skipped whole. -/
theorem Plain.skipValue (h : Plain ts v rest) : skipValue ts = some rest := by
  have hclosed : ∀ v, read .skipping (.closed v) [] rest = some (v, rest) := fun v => by
    cases rest <;> rfl
  cases h with
  | number k => cases k <;> simp [Json.skipValue, read, scalar?, Pace.number?, hclosed]
  | _ => simp [Json.skipValue, read, scalar?, Pace.text?, Pace.mayOpen, hclosed]

/-- **A flat shape reads values without contents**, and each of them as what it is. -/
theorem plain_of_readShape : ∀ {n : Nat} {s : Shape} {ts : List Token}, s.isFlat = true →
    readShape n s ts = .ok (v, rest) → Plain ts v rest
  | 0, _, _, _, h => by cases h
  | n + 1, s, ts, hs, h => by
    unfold readShape at h
    split at h
    case h_1 =>
      cases h
      exact .text _ _
    case h_2 =>
      cases h
      exact .boolean _ _
    case h_3 =>
      split at h
      · split at h
        · cases h
          exact .number _ _
        · cases h
      · cases h
    case h_4 =>
      split at h
      · cases h
        exact .text _ _
      · cases h
    case h_8 =>
      cases h
      exact .null _
    case h_9 =>
      cases h
      exact .boolean _ _
    case h_10 =>
      cases h
      exact .number _ _
    case h_11 =>
      cases h
      exact .text _ _
    case h_12 =>
      cases h
      exact .undecodable _
    case h_13 =>
      cases h
      exact .array _
    case h_14 =>
      cases h
      exact .object _
    case h_15 => cases h
    case h_17 =>
      cases h
      exact .null _
    case h_18 s _ => exact plain_of_readShape (s := s) hs h
    case h_19 s _ => exact plain_of_readShape (s := s) hs h
    case h_25 => cases h
    -- the shapes of values with contents
    all_goals cases hs

/-! ## The members of an object -/

/-- **The members of an object** from the next name on, each with the tokens that its value starts
at, and the tokens behind the object. -/
inductive Members : List Token → List (String × List Token) → List Token → Prop where
  | last {name : String} {ts rest : List Token} (h : skipValue ts = some (.endObject :: rest)) :
    Members (.text (some name) :: .colon :: ts) [(name, ts)] rest
  | more {name : String} {ts next rest : List Token} {ms : List (String × List Token)}
    (h : skipValue ts = some (.comma :: next)) (hnext : Members next ms rest) :
    Members (.text (some name) :: .colon :: ts) ((name, ts) :: ms) rest

theorem Members.unique {ms ms' : List (String × List Token)} (h : Members ts ms rest)
    (h' : Members ts ms' rest') : ms = ms' := by
  induction h generalizing ms' with
  | last h =>
    cases h' with
    | last => rfl
    | more h' => cases h.symm.trans h'
  | more h _ ih =>
    cases h' with
    | last h' => cases h.symm.trans h'
    | more h' hnext =>
      cases h.symm.trans h'
      rw [ih hnext]

variable {fields : List (String × Shape)} {found found' : List (String × Json)} {name : String}

/-- **What one member adds** to those that were found: a field its value, any other member
nothing. -/
inductive Adds (fields : List (String × Shape)) (name : String) (ts rest : List Token)
    (found : List (String × Json)) : List (String × Json) → Prop where
  | field {n : Nat} {s : Shape} {v : Json} (hfield : fields.lookup name = some s)
    (hnew : found.lookup name = none) (h : readShape n s ts = .ok (v, rest)) :
    Adds fields name ts rest found ((name, v) :: found)
  | other (hother : fields.lookup name = none) (h : skipValue ts = some rest) :
    Adds fields name ts rest found found

theorem Adds.skipValue (hflat : ∀ f ∈ fields, f.2.isFlat = true)
    (h : Adds fields name ts rest found found') : skipValue ts = some rest := by
  cases h with
  | field hfield _ h => exact (plain_of_readShape (hflat _ (mem_of_lookup hfield)) h).skipValue
  | other _ h => exact h

/-- **What follows a member**: the next one, or the end of the record. -/
theorem behind_member {m : Nat} {behind : List Token}
    (h : (match behind with
      | .comma :: ts => readMembers m fields found' ts
      | .endObject :: ts => do return (← fillRecord fields found', ts)
      | _ => .error .malformed) = .ok (v, rest)) :
    behind = .endObject :: rest ∧ fillRecord fields found' = .ok v ∨
      ∃ next, behind = .comma :: next ∧ readMembers m fields found' next = .ok (v, rest) := by
  split at h
  next next => exact .inr ⟨next, rfl, h⟩
  next ts =>
    obtain ⟨w, hw, hdone⟩ := bind_eq_ok.1 h
    cases hdone
    exact .inl ⟨rfl, hw⟩
  · cases h

/-- **Reading members** is reading the first one, and then the rest or the end. -/
theorem readMembers_cases (h : readMembers n fields found ts = .ok (v, rest)) :
    ∃ m name here behind found', n = m + 1 ∧ ts = .text (some name) :: .colon :: here ∧
      Adds fields name here behind found found' ∧
        (behind = .endObject :: rest ∧ fillRecord fields found' = .ok v ∨
          ∃ next, behind = .comma :: next ∧ readMembers m fields found' next = .ok (v, rest)) := by
  unfold readMembers at h
  split at h
  case h_1 => cases h
  case h_3 => cases h
  case h_2 m name ts =>
    split at h
    next s hfield =>
      split at h
      · cases h
      next hnew =>
      split at h
      next here =>
        obtain ⟨⟨w, behind⟩, hw, h⟩ := bind_eq_ok.1 h
        have hnew' : found.lookup name = none := Option.not_isSome_iff_eq_none.1 hnew
        exact ⟨m, name, here, behind, _, rfl, rfl, .field hfield hnew' hw, behind_member h⟩
      · cases h
    next hother =>
      split at h
      next here =>
        split at h
        next behind hskip =>
          exact ⟨m, name, here, behind, _, rfl, rfl, .other hother hskip, behind_member h⟩
        · cases h
      · cases h

/-- **What is found under the name of a field**: what was found before, if the object does not name
it again, or the value behind the name. -/
inductive Finds (s : Shape) (before : Option Json) :
    Option (List Token) → Option Json → Prop where
  | absent : Finds s before none before
  | read {n : Nat} {ts rest : List Token} {v : Json} (hnew : before = none)
    (h : readShape n s ts = .ok (v, rest)) : Finds s before (some ts) (some v)

/-- What a member adds is found, and what is found behind it is found from it on. -/
theorem Adds.finds {here behind : List Token} {ms : List (String × List Token)} {name' : String}
    {after : Option Json} (hadds : Adds fields name here behind found found')
    (hs : fields.lookup name' = some s)
    (h : Finds s (found'.lookup name') (ms.lookup name') after) :
    Finds s (found.lookup name') (((name, here) :: ms).lookup name') after := by
  by_cases hname : name' = name
  · subst hname
    cases hadds with
    | other hother => cases hother.symm.trans hs
    | @field _ _ w hfield hnew hread =>
      cases hfield.symm.trans hs
      rw [List.lookup_cons_self] at h ⊢
      generalize ms.lookup name' = there at h
      cases h with
      | absent => exact .read hnew hread
      | read hagain => cases hagain
  · have hne : (name' == name) = false := beq_false_of_ne hname
    have hfound : found'.lookup name' = found.lookup name' := by
      cases hadds with
      | other => rfl
      | field => simp [List.lookup_cons, hne]
    rw [← hfound]
    simpa [List.lookup_cons, hne] using h

/-- **A record reads its fields from the members of an object**, whatever other members there
are. -/
theorem members_of_readMembers (hflat : ∀ f ∈ fields, f.2.isFlat = true)
    {n : Nat} {found : List (String × Json)} {ts : List Token}
    (h : readMembers n fields found ts = .ok (v, rest)) :
    ∃ ms found', Members ts ms rest ∧ fillRecord fields found' = .ok v ∧
      ∀ name s, fields.lookup name = some s →
        Finds s (found.lookup name) (ms.lookup name) (found'.lookup name) := by
  induction n generalizing found ts with
  | zero => cases h
  | succ n ih =>
    obtain ⟨_, name, here, behind, found', ⟨⟩, rfl, hadds, hbehind⟩ := readMembers_cases h
    have hskip := hadds.skipValue hflat
    rcases hbehind with ⟨rfl, hfill⟩ | ⟨next, rfl, hnext⟩
    · exact ⟨[(name, here)], found', .last hskip, hfill, fun name' s hs =>
        hadds.finds hs .absent⟩
    · obtain ⟨ms, found'', hms, hfill, hfinds⟩ := ih hnext
      exact ⟨(name, here) :: ms, found'', .more hskip hms, hfill, fun name' s hs =>
        hadds.finds hs (hfinds name' s hs)⟩

/-! ## The record that comes of it -/

/-- What stands for a field that is missing. -/
def Shape.absent? : Shape → Option Json
  | .optional _ => some .null
  | .defaulting _ absent => some absent
  | _ => none

/-- **What fills a field**: the value that was found, or what stands for it. -/
def Fills (found : List (String × Json)) (f : String × Shape) (member : String × Json) : Prop :=
  member.1 = f.1 ∧ (found.lookup f.1).or f.2.absent? = some member.2

theorem forall₂_of_fillRecord (h : fillRecord fields found = .ok v) :
    ∃ members, v = .object members ∧ List.Forall₂ (Fills found) fields members := by
  obtain ⟨members, hmembers, hdone⟩ := bind_eq_ok.1 h
  cases hdone
  refine ⟨members, rfl, ((mapM_eq_ok_iff fields).1 hmembers).imp ?_⟩
  rintro ⟨name, s⟩ member hmember
  simp only at hmember
  split at hmember
  next hfound =>
    cases hmember
    exact ⟨rfl, by simp [hfound]⟩
  next hmissing =>
    cases hmember
    exact ⟨rfl, by simp [hmissing, Shape.absent?]⟩
  next hmissing =>
    cases hmember
    exact ⟨rfl, by simp [hmissing, Shape.absent?]⟩
  · cases hmember

theorem names_of_forall₂ {members : List (String × Json)}
    (h : List.Forall₂ (Fills found) fields members) :
    members.map (·.1) = fields.map (·.1) := by
  induction h with
  | nil => rfl
  | cons hfills _ ih => rw [List.map_cons, List.map_cons, hfills.1, ih]

theorem mem_of_forall₂ {members : List (String × Json)}
    (h : List.Forall₂ (Fills found) fields members) (hs : fields.lookup name = some s) :
    ∃ w, (name, w) ∈ members ∧ (found.lookup name).or s.absent? = some w := by
  induction h with
  | nil => cases hs
  | @cons f member fields members hfills _ ih =>
    obtain ⟨n, t⟩ := f
    obtain ⟨n', w⟩ := member
    obtain ⟨⟨⟩, hw⟩ := hfills
    by_cases hname : name = n
    · subst hname
      rw [List.lookup_cons_self] at hs
      cases hs
      exact ⟨w, List.mem_cons_self, hw⟩
    · rw [List.lookup_cons, beq_false_of_ne hname] at hs
      obtain ⟨w', hmem, hw'⟩ := ih hs
      exact ⟨w', List.mem_cons_of_mem _ hmem, hw'⟩

/-- **A record holds each of its fields**, with the value that was found or what stands for it. -/
theorem member?_of_fillRecord (h : fillRecord fields found = .ok v)
    (hdistinct : (fields.map (·.1)).Nodup) (hs : fields.lookup name = some s) :
    ∃ w, v.member? name = some w ∧ (found.lookup name).or s.absent? = some w := by
  obtain ⟨members, rfl, hall⟩ := forall₂_of_fillRecord h
  obtain ⟨w, hmem, hw⟩ := mem_of_forall₂ hall hs
  have hnames : (members.reverse.map (·.1)).Nodup := by
    rw [List.map_reverse, List.nodup_reverse, names_of_forall₂ hall]
    exact hdistinct
  exact ⟨w, lookup_of_mem hnames (List.mem_reverse.2 hmem), hw⟩

/-! ## Whole records -/

/-- **An object** at the start of a token list, by its members. -/
inductive IsObject : List Token → List (String × List Token) → Prop where
  | empty (ts : List Token) : IsObject (.beginObject :: .endObject :: ts) []
  | members {ts rest : List Token} {ms : List (String × List Token)} (h : Members ts ms rest) :
    IsObject (.beginObject :: ts) ms

theorem IsObject.unique {ms ms' : List (String × List Token)} (h : IsObject ts ms)
    (h' : IsObject ts ms') : ms = ms' := by
  cases h with
  | empty =>
    cases h' with
    | empty => rfl
    | members h' => cases h'
  | members h =>
    cases h' with
    | empty => cases h
    | members h' => exact h.unique h'

/-- **The value of a field**: what is read where the object names it, or else what stands for it. -/
inductive Value (s : Shape) : Option (List Token) → Json → Prop where
  | absent {v : Json} (h : s.absent? = some v) : Value s none v
  | read {n : Nat} {ts rest : List Token} {v : Json} (h : readShape n s ts = .ok (v, rest)) :
    Value s (some ts) v

/-- **Two flat shapes give the same value** where the object names it. -/
theorem Value.unique {s' : Shape} {here : List Token} (hs : s.isFlat = true)
    (hs' : s'.isFlat = true) (h : Value s (some here) v) (h' : Value s' (some here) w) : v = w := by
  cases h with
  | read h =>
    cases h' with
    | read h' => exact ((plain_of_readShape hs h).unique (plain_of_readShape hs' h')).1

/-- **A record that is written as an object** has the values that the object gives its fields. -/
theorem values_of_object (hflat : ∀ f ∈ fields, f.2.isFlat = true)
    (hdistinct : (fields.map (·.1)).Nodup)
    (h : readShape n (.record fields) (.beginObject :: ts) = .ok (v, rest)) :
    ∃ ms, IsObject (.beginObject :: ts) ms ∧ ∀ name s, fields.lookup name = some s →
      ∃ w, v.member? name = some w ∧ Value s (ms.lookup name) w := by
  cases n with
  | zero => cases h
  | succ n =>
    by_cases hempty : ∃ ts', ts = .endObject :: ts'
    · obtain ⟨ts', rfl⟩ := hempty
      obtain ⟨w, hw, hdone⟩ := bind_eq_ok.1 (h : (do return (← fillRecord fields [], ts')) = _)
      cases hdone
      refine ⟨[], .empty _, fun name s hs => ?_⟩
      obtain ⟨u, hu, habsent⟩ := member?_of_fillRecord hw hdistinct hs
      exact ⟨u, hu, .absent habsent⟩
    · have hmembers : readMembers n fields [] ts = .ok (v, rest) := by
        rw [← h, readShape]
        exact fun ts' hts => hempty ⟨ts', hts⟩
      obtain ⟨ms, found, hms, hfill, hfinds⟩ := members_of_readMembers hflat hmembers
      refine ⟨ms, .members hms, fun name s hs => ?_⟩
      obtain ⟨u, hu, hfound⟩ := member?_of_fillRecord hfill hdistinct hs
      refine ⟨u, hu, ?_⟩
      have hfind := hfinds name s hs
      generalize ms.lookup name = here at hfind ⊢
      generalize found.lookup name = after at hfind hfound
      cases hfind with
      | absent => exact .absent hfound
      | read _ hread =>
        cases hfound
        exact .read hread

/-! ### Records in arrays -/

theorem names_of_defaults? : ∀ {fields : List (String × Shape)} {members : List (String × Json)},
    defaults? fields = some members → members.map (·.1) = fields.map (·.1)
  | [], _, h => by
    cases h
    rfl
  | (name, .defaulting s absent) :: fields, members, h => by
    obtain ⟨rest, hrest, rfl⟩ := Option.map_eq_some_iff.1 h
    rw [List.map_cons, List.map_cons, names_of_defaults? hrest]

/-- **Reading fields** is ending with defaults for those that are left, or reading the next one. -/
theorem readFields_cases {done : List (String × Json)} {first : Bool}
    (h : readFields n fields done first ts = .ok (v, rest)) :
    (∃ members, ts = .endArray :: rest ∧ defaults? fields = some members ∧
      v = .object (done.reverse ++ members)) ∨
    ∃ m name s fields' here behind w, n = m + 1 ∧ fields = (name, s) :: fields' ∧
      (first = true → here = ts) ∧ readShape m s here = .ok (w, behind) ∧
      readFields m fields' ((name, w) :: done) false behind = .ok (v, rest) := by
  unfold readFields at h
  split at h
  case h_1 => cases h
  case h_2 =>
    obtain ⟨⟨⟨⟩, ts'⟩, hend, hdone⟩ := bind_eq_ok.1 h
    cases hdone
    unfold endOfArray at hend
    split at hend
    · cases hend
      exact .inl ⟨[], rfl, rfl, by simp⟩
    · cases hend
  case h_3 m name s fields =>
    split at h
    · split at h
      next members hmembers =>
        cases h
        exact .inl ⟨members, rfl, hmembers, rfl⟩
      · cases h
    · obtain ⟨⟨w, behind⟩, hw, hrest⟩ := bind_eq_ok.1 h
      exact .inr ⟨m, name, s, fields, _, behind, w, rfl, rfl, fun _ => rfl, hw, hrest⟩
    · cases h
    · obtain ⟨⟨w, behind⟩, hw, hrest⟩ := bind_eq_ok.1 h
      exact .inr ⟨m, name, s, fields, _, behind, w, rfl, rfl, by simp, hw, hrest⟩
    · cases h

/-- **A record that is written as an array** has each of its fields once, in their order. -/
theorem members_of_readFields {done : List (String × Json)} {first : Bool}
    (h : readFields n fields done first ts = .ok (v, rest)) :
    ∃ members, v = .object (done.reverse ++ members) ∧ members.map (·.1) = fields.map (·.1) := by
  induction n generalizing fields done first ts with
  | zero => cases h
  | succ n ih =>
    rcases readFields_cases h with ⟨members, -, hmembers, rfl⟩ |
      ⟨_, name, s, fields, here, behind, w, ⟨⟩, rfl, -, -, hrest⟩
    · exact ⟨members, rfl, names_of_defaults? hmembers⟩
    · obtain ⟨members, rfl, hnames⟩ := ih hrest
      exact ⟨(name, w) :: members, by simp, by simp [hnames]⟩

/-- **The first field of a record in an array** is read where the array begins, unless it is
empty. -/
theorem first_of_array (hdistinct : ((name, s) :: fields |>.map (·.1)).Nodup)
    (h : readShape n (.record ((name, s) :: fields)) (.beginArray :: ts) = .ok (v, rest)) :
    (ts = .endArray :: rest ∧ (defaults? ((name, s) :: fields)).isSome = true) ∨
      ∃ m behind w, readShape m s ts = .ok (w, behind) ∧ v.member? name = some w := by
  cases n with
  | zero => cases h
  | succ n =>
    have h : readFields n ((name, s) :: fields) [] true ts = .ok (v, rest) := h
    rcases readFields_cases h with ⟨members, hts, hmembers, -⟩ |
      ⟨m, _, _, _, here, behind, w, rfl, ⟨⟩, hhere, hw, hrest⟩
    · exact .inl ⟨hts, by rw [hmembers]; rfl⟩
    · cases hhere rfl
      obtain ⟨members, rfl, hnames⟩ := members_of_readFields hrest
      refine .inr ⟨m, behind, w, hw, ?_⟩
      have hdistinct' : (((name, w) :: members).reverse.map (·.1)).Nodup := by
        rw [List.map_reverse, List.nodup_reverse, List.map_cons, hnames]
        exact hdistinct
      exact lookup_of_mem hdistinct' (by simp)

/-! ## Whole documents -/

/-- A text is read where a text stands. -/
theorem text_of_readShape (h : readShape n .text ts = .ok (v, rest)) :
    ∃ t, ts = .text (some t) :: rest ∧ v = .text t := by
  cases n with
  | zero => cases h
  | succ n =>
    cases plain_of_readShape rfl h with
    | text t => exact ⟨t, rfl, rfl⟩
    | _ => cases h

/-- **A record begins with an array or an object.** -/
theorem begins_of_readShape {fields : List (String × Shape)}
    (h : readShape n (.record fields) ts = .ok (v, rest)) :
    ∃ ts', ts = .beginArray :: ts' ∨ ts = .beginObject :: ts' := by
  cases n with
  | zero => cases h
  | succ n =>
    cases ts with
    | nil => cases h
    | cons t ts =>
      cases t with
      | beginArray => exact ⟨ts, .inl rfl⟩
      | beginObject => exact ⟨ts, .inr rfl⟩
      | _ => cases h

theorem readShape_of_readWhole? {s : Shape} {bytes : List UInt8}
    (h : s.readWhole? bytes = some v) :
    ∃ n, readShape n s (Token.scan (octets bytes)) = .ok (v, []) := by
  unfold Shape.readWhole? at h
  split at h
  next hread =>
    cases h
    exact ⟨_, hread⟩
  · cases h

/-- The tokens of a text, in at most as many steps as are given. -/
def scanWithin : Nat → List Char → List Token
  | 0, _ | _, [] => []
  | n + 1, c :: cs =>
    if isJsonBlank c then scanWithin n cs
    else match scanToken c cs with
      | none => [.junk]
      | some (t, rest) => t :: scanWithin n rest

/-- **A text has no more tokens than characters.** -/
theorem scan_eq_scanWithin : ∀ {n : Nat} {cs : List Char}, cs.length ≤ n →
    Token.scan cs = scanWithin n cs
  | n, [], _ => by
    unfold Token.scan
    cases n <;> rfl
  | n + 1, c :: cs, h => by
    have hlength : cs.length ≤ n := Nat.le_of_succ_le_succ h
    rw [Token.scan, scanWithin]
    split
    · exact scan_eq_scanWithin hlength
    · split
      next hnone => simp [hnone]
      next t rest hsome =>
        simp only [hsome]
        rw [scan_eq_scanWithin (Nat.le_trans (length_scanToken hsome) hlength)]

end TenantGuard.Json
