import TenantGuard.Text.Utf8

/-!
# Routes

A route is a path with gaps that leads somewhere.  In `/projects/:project/resources` the gap is a
parameter and stands for all of a segment from there on; `/logs/*path` ends in a remainder, which
stands for all that is left of a path.

* `Route.ofText` reads a route, `Route.lookup` finds the one that a path takes;
* where routes part, the literal one is tried first, and what it does not lead to is looked for in
  the gap: `Route.search`;
* but where no more than a slash is left of the path when routes part, nothing else is tried: next
  to a route `/me` there is no `/me/`, not even in a gap of another route;
* `Takes` says which paths fit a route, whatever the order in which routes are tried, and a path
  only leads to the target of a route that it takes: `takes_of_lookup`;
* a route that starts with a text is only taken by paths that do: `takes_append_iff`.
-/

namespace TenantGuard.Http

/-- **A part of a route.** -/
inductive RoutePart where
  | literal (c : Char)
  /-- All of a segment from here on.  It may be empty, but not at the end of a path. -/
  | parameter
  /-- All that is left of a path, which is never nothing. -/
  | remainder
  deriving DecidableEq, Repr, Inhabited

/-- **A route**, or what is left of it when its start is gone. -/
structure Route (α : Type) where
  parts : List RoutePart
  target : α
  deriving Repr

namespace Route

variable {α : Type}

/-- The parts that a text names.  The name of a parameter ends with its segment and is skipped, and
a remainder is the last part. -/
def partsOf (inName : Bool) : List Char → List RoutePart
  | [] => []
  | c :: cs =>
    if inName && c != '/' then partsOf true cs
    else if c = ':' then .parameter :: partsOf true cs
    else if c = '*' then [.remainder]
    else .literal c :: partsOf false cs

/-- **The route that a text names.** -/
def ofText (text : String) (target : α) : Route α := ⟨partsOf false text.toList, target⟩

/-! ## Going on -/

/-- The rest of a route that goes on with a literal. -/
def past? (c : Char) (r : Route α) : Option (Route α) :=
  match r.parts with
  | .literal d :: parts => if c = d then some { r with parts } else none
  | _ => none

/-- The rest of a route that goes on with a parameter. -/
def pastParameter? (r : Route α) : Option (Route α) :=
  match r.parts with
  | .parameter :: parts => some { r with parts }
  | _ => none

def isRemainder (r : Route α) : Bool := r.parts.head? == some .remainder

/-- The first octet of a route that goes on with a literal. -/
def start? (r : Route α) : Option UInt8 :=
  match r.parts with
  | .literal c :: _ => (Text.Utf8.encode [c]).head?
  | _ => none

/-- Whether routes part here: one of them is over or has a gap, or their octets differ. -/
def parting : List (Route α) → Bool
  | [] => false
  | r :: rs => r.start?.isNone || rs.any (·.start? != r.start?)

/-! ## Finding a route -/

/-- **What a search comes to.** -/
inductive Outcome (α : Type) where
  /-- A target, with the values of the parameters on the way. -/
  | found (target : α) (values : List String)
  /-- Nothing on this way. -/
  | missed
  /-- Nothing on any way. -/
  | refused
  deriving Repr

namespace Outcome

/-- Puts the value of a parameter, which is given from its end, before the others. -/
def withValue (reversed : List Char) : Outcome α → Outcome α
  | found target values => found target (String.ofList reversed.reverse :: values)
  | o => o

/-- What another way comes to if this one is a miss. -/
def orElse (o : Outcome α) (other : Unit → Outcome α) : Outcome α :=
  match o with
  | missed => other ()
  | o => o

/-- Whether to refuse what is missed. -/
def settled (isFinal : Bool) : Outcome α → Outcome α
  | missed => if isFinal then refused else missed
  | o => o

end Outcome

/-- **Finds the route of a path** among what is left of several ones.  Inside of a parameter, its
value so far comes with them, from its end. -/
def search : Option (List Char) → List (Route α) → List Char → Outcome α
  | value, rs, [] =>
    match rs.find? (·.parts.isEmpty) with
    | some r => .found r.target (value.toList.map fun v => String.ofList v.reverse)
    | none => .missed
  | some value, rs, c :: cs =>
    if c = '/' then
      ((search none (rs.filterMap (past? c)) cs).settled cs.isEmpty).withValue value
    else search (some (c :: value)) rs cs
  | none, rs, c :: cs =>
    let literally := search none (rs.filterMap (past? c)) cs
    let inGap := fun _ : Unit =>
      match rs.filterMap pastParameter? with
      | [] =>
        match rs.find? isRemainder with
        | some r => .found r.target []
        | none => .missed
      | rs =>
        if c = '/' then (search none (rs.filterMap (past? c)) cs).withValue []
        else search (some [c]) rs cs
    (literally.orElse inGap).settled (c = '/' && cs.isEmpty && parting rs)

/-- **The target of a path** with the values of its parameters. -/
def lookup (rs : List (Route α)) (path : String) : Option (α × List String) :=
  match search none rs path.toList with
  | .found target values => some (target, values)
  | _ => none

/-! ## Which paths take a route -/

/-- **A path takes a route**, given by its parts, if it fits them one by one. -/
inductive Takes : List RoutePart → List Char → Prop where
  | done : Takes [] []
  | literal {c : Char} {parts : List RoutePart} {cs : List Char} : Takes parts cs →
      Takes (.literal c :: parts) (c :: cs)
  | parameter {value cs : List Char} {parts : List RoutePart} : '/' ∉ value → Takes parts cs →
      Takes (.parameter :: parts) (value ++ cs)
  | remainder {c : Char} {parts : List RoutePart} {cs : List Char} :
      Takes (.remainder :: parts) (c :: cs)

/-- What is left of a path takes what is left of a route; inside of a parameter, some more of its
value comes first. -/
def TakesFrom (value : Option (List Char)) (parts : List RoutePart) (cs : List Char) : Prop :=
  match value with
  | none => Takes parts cs
  | some _ => ∃ more rest, cs = more ++ rest ∧ '/' ∉ more ∧ Takes parts rest

/-! ## Where routes lead -/

variable {r s : Route α} {rs : List (Route α)} {c : Char} {cs text : List Char}
  {parts : List RoutePart} {a : α} {vs : List String}

theorem Outcome.withValue_eq_found {v : List Char} {o : Outcome α} {a : α} {vs : List String}
    (h : o.withValue v = .found a vs) : ∃ ws, o = .found a ws := by
  cases o <;> simp_all [withValue]

theorem Outcome.settled_eq_found {b : Bool} {o : Outcome α} {a : α} {vs : List String}
    (h : o.settled b = .found a vs) : o = .found a vs := by
  cases o <;> simp_all [settled]
  split at h <;> simp at h

theorem Outcome.orElse_eq_found {o : Outcome α} {f : Unit → Outcome α} {a : α} {vs : List String}
    (h : o.orElse f = .found a vs) : o = .found a vs ∨ f () = .found a vs := by
  cases o <;> simp_all [orElse]

theorem parts_of_past? (h : r.past? c = some s) :
    r.parts = .literal c :: s.parts ∧ r.target = s.target := by
  unfold past? at h
  split at h
  next hparts =>
    split at h
    next hc =>
      cases h
      rw [hparts, hc]
      exact ⟨rfl, rfl⟩
    · cases h
  · cases h

theorem parts_of_pastParameter? (h : r.pastParameter? = some s) :
    r.parts = .parameter :: s.parts ∧ r.target = s.target := by
  unfold pastParameter? at h
  split at h
  next hparts =>
    cases h
    rw [hparts]
    exact ⟨rfl, rfl⟩
  · cases h

/-- A path that goes on with a character takes a route that goes on with it. -/
theorem takes_of_past? (h : ∃ s ∈ rs.filterMap (past? c), s.target = a ∧ Takes s.parts cs) :
    ∃ r ∈ rs, r.target = a ∧ Takes r.parts (c :: cs) := by
  obtain ⟨s, hs, rfl, htakes⟩ := h
  obtain ⟨r, hr, hrs⟩ := List.mem_filterMap.1 hs
  obtain ⟨hparts, htarget⟩ := parts_of_past? hrs
  exact ⟨r, hr, htarget, hparts ▸ .literal htakes⟩

/-- A path that goes on with a value takes a route that goes on with a parameter. -/
theorem takes_of_pastParameter? {value : List Char} (hvalue : '/' ∉ value)
    (h : ∃ s ∈ rs.filterMap pastParameter?, s.target = a ∧ Takes s.parts cs) :
    ∃ r ∈ rs, r.target = a ∧ Takes r.parts (value ++ cs) := by
  obtain ⟨s, hs, rfl, htakes⟩ := h
  obtain ⟨r, hr, hrs⟩ := List.mem_filterMap.1 hs
  obtain ⟨hparts, htarget⟩ := parts_of_pastParameter? hrs
  exact ⟨r, hr, htarget, hparts ▸ .parameter hvalue htakes⟩

theorem takes_of_isRemainder (h : r.isRemainder = true) : Takes r.parts (c :: cs) := by
  rw [isRemainder, beq_iff_eq] at h
  obtain ⟨parts, hparts⟩ := List.head?_eq_some_iff.1 h
  rw [hparts]
  exact .remainder

/-- **A search only finds targets of routes that the path takes.** -/
theorem takes_of_search {value : Option (List Char)} (h : search value rs cs = .found a vs) :
    ∃ r ∈ rs, r.target = a ∧ TakesFrom value r.parts cs := by
  induction cs generalizing value rs vs with
  | nil =>
    rw [search] at h
    split at h
    next r hr =>
      cases h
      have hfound := List.find?_some hr
      have hempty : r.parts = [] := List.isEmpty_iff.1 hfound
      refine ⟨r, List.mem_of_find?_eq_some hr, rfl, ?_⟩
      rw [hempty]
      cases value with
      | none => exact .done
      | some v => exact ⟨[], [], rfl, List.not_mem_nil, .done⟩
    · cases h
  | cons c cs ih =>
    cases value with
    | some v =>
      rw [search] at h
      split at h
      next hc =>
        obtain ⟨ws, h⟩ := Outcome.withValue_eq_found h
        obtain ⟨r, hr, htarget, htakes⟩ := takes_of_past? (ih (Outcome.settled_eq_found h))
        exact ⟨r, hr, htarget, [], c :: cs, rfl, List.not_mem_nil, hc ▸ htakes⟩
      next hc =>
        obtain ⟨r, hr, htarget, more, rest, rfl, hmore, htakes⟩ := ih h
        refine ⟨r, hr, htarget, c :: more, rest, rfl, ?_, htakes⟩
        exact List.not_mem_cons_of_ne_of_not_mem (Ne.symm hc) hmore
    | none =>
      rw [search] at h
      rcases Outcome.orElse_eq_found (Outcome.settled_eq_found h) with h | h
      · exact takes_of_past? (ih h)
      split at h
      · split at h
        next r hr =>
          cases h
          exact ⟨r, List.mem_of_find?_eq_some hr, rfl, takes_of_isRemainder (List.find?_some hr)⟩
        · cases h
      split at h
      next hc =>
        -- A parameter may be empty.
        obtain ⟨ws, h⟩ := Outcome.withValue_eq_found h
        exact takes_of_pastParameter? List.not_mem_nil (takes_of_past? (hc ▸ ih h))
      next hc =>
        obtain ⟨s, hs, htarget, more, rest, rfl, hmore, htakes⟩ := ih h
        have hvalue : '/' ∉ c :: more := List.not_mem_cons_of_ne_of_not_mem (Ne.symm hc) hmore
        exact takes_of_pastParameter? hvalue ⟨s, hs, htarget, htakes⟩

/-- **What is found for a path is the target of a route that it takes.** -/
theorem takes_of_lookup {path : String} (h : lookup rs path = some (a, vs)) :
    ∃ r ∈ rs, r.target = a ∧ Takes r.parts path.toList := by
  unfold lookup at h
  split at h
  next hs =>
    cases h
    exact takes_of_search hs
  · cases h

/-! ## Literal starts -/

/-- Whether a text has no gaps. -/
def isGapless (text : List Char) : Bool := text.all fun c => c != ':' && c != '*'

/-- A text without gaps is taken letter by letter. -/
theorem partsOf_append (htext : isGapless text = true) (more : List Char) :
    partsOf false (text ++ more) = text.map .literal ++ partsOf false more := by
  induction text with
  | nil => rfl
  | cons c cs ih =>
    simp only [isGapless, List.all_cons, Bool.and_eq_true, bne_iff_ne] at htext
    obtain ⟨⟨hcolon, hstar⟩, hcs⟩ := htext
    rw [List.cons_append, partsOf, Bool.false_and, if_neg (by decide), if_neg hcolon,
      if_neg hstar, ih hcs, List.map_cons, List.cons_append]

/-- **A route that starts with a text** is taken by what starts with it too. -/
theorem takes_literals_iff :
    Takes (text.map .literal ++ parts) cs ↔ ∃ rest, cs = text ++ rest ∧ Takes parts rest := by
  induction text generalizing cs with
  | nil => simp
  | cons c text ih =>
    rw [List.map_cons, List.cons_append]
    constructor
    · intro h
      cases h with
      | literal h =>
        obtain ⟨rest, rfl, htakes⟩ := ih.1 h
        exact ⟨rest, rfl, htakes⟩
    · rintro ⟨rest, rfl, htakes⟩
      exact .literal (ih.2 ⟨rest, rfl, htakes⟩)

/-- What a path starts with that takes a route with a literal start. -/
theorem takes_append_iff (htext : isGapless text = true) {more : List Char} :
    Takes (partsOf false (text ++ more)) cs ↔
      ∃ rest, cs = text ++ rest ∧ Takes (partsOf false more) rest := by
  rw [partsOf_append htext, takes_literals_iff]

/-- Only itself takes a route without gaps. -/
theorem takes_text_iff (htext : isGapless text = true) :
    Takes (partsOf false text) cs ↔ cs = text := by
  rw [← List.append_nil text, takes_append_iff htext]
  constructor
  · rintro ⟨rest, rfl, htakes⟩
    cases htakes
    rfl
  · rintro rfl
    exact ⟨[], rfl, .done⟩

end Route

end TenantGuard.Http
