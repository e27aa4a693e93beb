import Mathlib.Data.List.Induction
import TenantGuard.Fault.Wire

/-!
# What is told of a fault

A fault is made in some way, and then details, single values and a source are added to it in any
order.

* `Addition` is one thing that is added, and `withAll` adds several of them, one after another;
* `Attached` says what the details are after that: those that were attached last as a whole, with
  the values that were attached since, of each name the last one;
* `attached_withAll` and `looksLike_withAll`: what additions come to, and that sources and internal
  messages leave no trace in it;
* `told_of_additions`: what the caller is told.  A denial tells no details, any other fault those
  that were attached, except that an entity type alone is passed over (`entityType_alone_untold`).
-/

namespace TenantGuard.Fault

/-! ## Additions -/

/-- **What can be added to a fault.**  A value that cannot be written as JSON is `none`. -/
inductive Addition where
  | details (d : Details)
  | context (key : String) (value : Option Json)
  | source
  deriving Repr

namespace Addition

def onto (f : Fault) : Addition → Fault
  | details d => f.withDetails d
  | context key (some v) => f.withContext key v
  | context _ none => f
  | source => f.withSource

/-- The details that are attached as a whole. -/
def whole? : Addition → Option Details
  | details d => some d
  | _ => none

/-- The value that is attached, with its name. -/
def value? : Addition → Option (String × Json)
  | context key (some v) => some (key, v)
  | _ => none

def isSource : Addition → Bool
  | source => true
  | _ => false

end Addition

/-- A fault with some additions, the first one made first. -/
def withAll (f : Fault) (adds : List Addition) : Fault := adds.foldl Addition.onto f

/-- The details that were attached last as a whole, or those that the fault was made with. -/
def wholeDetails (own : Details) (adds : List Addition) : Details :=
  (adds.reverse.findSome? Addition.whole?).getD own

/-- The values that were attached since then, the latest first. -/
def valuesSince (adds : List Addition) : List (String × Json) :=
  (adds.reverse.takeWhile (·.whole?.isNone)).filterMap Addition.value?

/-- **The details that were attached**: the last whole ones, with the values attached since. -/
structure Attached (own : Details) (adds : List Addition) (d : Details) : Prop where
  entityId : d.entityId = (wholeDetails own adds).entityId
  entityType : d.entityType = (wholeDetails own adds).entityType
  suggestion : d.suggestion = (wholeDetails own adds).suggestion
  context : ∀ key, d.context.lookup key =
    ((valuesSince adds).lookup key).or ((wholeDetails own adds).context.lookup key)

/-- **Two faults that differ in what is internal** at most: the message for the operator, and
whether another failure caused them. -/
structure LooksLike (f g : Fault) : Prop where
  code : f.code = g.code
  message : f.message = g.message
  details : f.details = g.details

variable {f g : Fault} {own d : Details} {adds : List Addition} {a : Addition} {key : String}
  {v : Json}

/-! ## What additions come to -/

theorem lookup_setMember (key : String) (v : Json) (name : String) :
    ∀ members : List (String × Json), (Json.setMember key v members).lookup name =
      if name = key then some v else members.lookup name
  | [] => by
    by_cases h : name = key
    · simp [Json.setMember, h]
    · simp [Json.setMember, List.lookup_cons, beq_false_of_ne h, h]
  | (n, w) :: members => by
    have ih := lookup_setMember key v name members
    unfold Json.setMember
    by_cases hn : n = key
    · subst hn
      rw [if_pos rfl, List.lookup_cons, List.lookup_cons]
      by_cases hname : name = n
      · simp [hname]
      · simp [beq_false_of_ne hname, hname]
    · rw [if_neg hn, List.lookup_cons, List.lookup_cons, ih]
      by_cases hname : name = n
      · subst hname
        simp [hn]
      · simp [beq_false_of_ne hname]

theorem withAll_concat (f : Fault) (adds : List Addition) (a : Addition) :
    f.withAll (adds ++ [a]) = a.onto (f.withAll adds) := by
  rw [withAll, List.foldl_append]
  rfl

theorem wholeDetails_concat (own : Details) (adds : List Addition) (a : Addition) :
    wholeDetails own (adds ++ [a]) = a.whole?.getD (wholeDetails own adds) := by
  simp only [wholeDetails, List.reverse_append, List.reverse_cons, List.reverse_nil,
    List.nil_append, List.singleton_append, List.findSome?_cons]
  cases a.whole? <;> rfl

theorem valuesSince_concat (adds : List Addition) (a : Addition) :
    valuesSince (adds ++ [a]) =
      if a.whole?.isSome then [] else a.value?.toList ++ valuesSince adds := by
  simp only [valuesSince, List.reverse_append, List.reverse_cons, List.reverse_nil,
    List.nil_append, List.singleton_append, List.takeWhile_cons]
  cases a with
  | details d => rfl
  | context key value => cases value <;> rfl
  | source => rfl

/-- What adds neither details nor a value leaves the attached details as they are. -/
theorem Attached.concat (h : Attached own adds d) (hwhole : a.whole? = none)
    (hvalue : a.value? = none) : Attached own (adds ++ [a]) d := by
  have hsame : wholeDetails own (adds ++ [a]) = wholeDetails own adds := by
    rw [wholeDetails_concat, hwhole]
    rfl
  have hvalues : valuesSince (adds ++ [a]) = valuesSince adds := by
    rw [valuesSince_concat, hwhole, hvalue]
    rfl
  exact ⟨hsame ▸ h.entityId, hsame ▸ h.entityType, hsame ▸ h.suggestion, fun key => by
    rw [hvalues, hsame, h.context]⟩

/-- **A value that is added is attached**, and nothing else changes. -/
theorem Attached.withContext (h : Attached own adds d) (key : String) (v : Json) :
    Attached own (adds ++ [.context key (some v)]) (d.withContext key v) := by
  have hsame : wholeDetails own (adds ++ [.context key (some v)]) = wholeDetails own adds :=
    wholeDetails_concat own adds _
  have hvalues : valuesSince (adds ++ [.context key (some v)]) = (key, v) :: valuesSince adds :=
    valuesSince_concat adds _
  refine ⟨hsame ▸ h.entityId, hsame ▸ h.entityType, hsame ▸ h.suggestion, fun name => ?_⟩
  rw [Details.withContext, lookup_setMember, hvalues, hsame, h.context, List.lookup_cons]
  by_cases hname : name = key
  · simp [hname]
  · simp [beq_false_of_ne hname, hname]

/-- **The details of a fault are those that were attached to it.** -/
theorem attached_withAll (f : Fault) (adds : List Addition) :
    Attached f.details adds (f.withAll adds).details := by
  induction adds using List.reverseRecOn with
  | nil => exact ⟨rfl, rfl, rfl, fun key => rfl⟩
  | append_singleton adds a ih =>
    rw [withAll_concat]
    cases a with
    | details d =>
      have hwhole : wholeDetails f.details (adds ++ [.details d]) = d :=
        wholeDetails_concat f.details adds _
      have hvalues : valuesSince (adds ++ [.details d]) = [] := valuesSince_concat adds _
      constructor
      · rw [hwhole]
        rfl
      · rw [hwhole]
        rfl
      · rw [hwhole]
        rfl
      · intro key
        rw [hwhole, hvalues]
        rfl
    | context key value =>
      cases value with
      | none => exact ih.concat rfl rfl
      | some v => exact ih.withContext key v
    | source => exact ih.concat rfl rfl

/-! ## What is internal -/

theorem LooksLike.onto (h : LooksLike f g) (a : Addition) : LooksLike (a.onto f) (a.onto g) := by
  cases a with
  | details d => exact ⟨h.code, h.message, rfl⟩
  | context key value =>
    cases value with
    | none => exact h
    | some v => exact ⟨h.code, h.message, congrArg (·.withContext key v) h.details⟩
  | source => exact ⟨h.code, h.message, h.details⟩

theorem LooksLike.withAll (h : LooksLike f g) (adds : List Addition) :
    LooksLike (f.withAll adds) (g.withAll adds) := by
  induction adds generalizing f g with
  | nil => exact h
  | cons a adds ih => exact ih (h.onto a)

/-- **A source leaves no trace** but in what is internal. -/
theorem looksLike_filter (f : Fault) (adds : List Addition) :
    LooksLike (f.withAll adds) (f.withAll (adds.filter (!·.isSource))) := by
  induction adds generalizing f with
  | nil => exact ⟨rfl, rfl, rfl⟩
  | cons a adds ih =>
    cases a with
    | source =>
      have hstart : LooksLike f.withSource f := ⟨rfl, rfl, rfl⟩
      have hsource := hstart.withAll adds
      have hrest := ih f
      exact ⟨hsource.code.trans hrest.code, hsource.message.trans hrest.message,
        hsource.details.trans hrest.details⟩
    | details d => exact ih _
    | context key value => exact ih _

/-- **Additions that agree but for sources** keep faults alike that differ in what is internal. -/
theorem looksLike_withAll {others : List Addition} (h : LooksLike f g)
    (hadds : adds.filter (!·.isSource) = others.filter (!·.isSource)) :
    LooksLike (f.withAll adds) (g.withAll others) := by
  have hf := looksLike_filter f adds
  have hg := looksLike_filter g others
  have hmid := h.withAll (adds.filter (!·.isSource))
  rw [← hadds] at hg
  exact ⟨hf.code.trans (hmid.code.trans hg.code.symm),
    hf.message.trans (hmid.message.trans hg.message.symm),
    hf.details.trans (hmid.details.trans hg.details.symm)⟩

/-! ## What the caller is told -/

theorem LooksLike.toWire_eq (h : LooksLike f g) (now : Moment) : f.toWire now = g.toWire now := by
  unfold toWire
  rw [h.code, h.message, h.details]

theorem isEmpty_iff : d.isEmpty = true ↔
    d.context = [] ∧ d.entityId = none ∧ d.suggestion = none := by
  simp [Details.isEmpty, and_assoc]

/-- **What a caller is told of a fault**, whatever it was made of and whatever was added to it: the
same for all internal messages and sources; no details of a denial; and of any other fault the
details that were attached, unless they are empty or no more than an entity type. -/
theorem told_of_additions (f : Fault) (adds : List Addition) (now : Moment) :
    (∀ g others, LooksLike f g → adds.filter (!·.isSource) = others.filter (!·.isSource) →
      (f.withAll adds).toWire now = (g.withAll others).toWire now) ∧
    ((f.withAll adds).code = .permissionDenied → ((f.withAll adds).toWire now).details = none) ∧
    ((f.withAll adds).code ≠ .permissionDenied → ∃ d, Attached f.details adds d ∧
      (d.context ≠ [] ∨ d.entityId ≠ none ∨ d.suggestion ≠ none →
        ((f.withAll adds).toWire now).details = some d) ∧
      (d.context = [] ∧ d.entityId = none ∧ d.suggestion = none →
        ((f.withAll adds).toWire now).details = none)) := by
  refine ⟨fun g others hlike hadds => (looksLike_withAll hlike hadds).toWire_eq now, ?_, ?_⟩
  · intro hdenied
    simp [toWire, hdenied]
  · intro hcode
    have hcode' : ((f.withAll adds).code == .permissionDenied) = false := beq_false_of_ne hcode
    refine ⟨(f.withAll adds).details, attached_withAll f adds, fun hsome => ?_, fun hnone => ?_⟩
    · have hfull : (f.withAll adds).details.isEmpty = false := by
        rw [Bool.eq_false_iff, ne_eq, isEmpty_iff]
        rintro ⟨hcontext, hid, hsuggestion⟩
        exact hsome.elim (· hcontext) (·.elim (· hid) (· hsuggestion))
      simp [toWire, hcode', hfull]
    · simp [toWire, isEmpty_iff.2 hnone]

/-- **An entity type alone is not told**, although it was attached. -/
theorem entityType_alone_untold : ∃ (f : Fault) (d : Details) (now : Moment),
    (f.withAll [.details d]).code ≠ .permissionDenied ∧
      (f.withAll [.details d]).details.entityType = some "project" ∧
      ((f.withAll [.details d]).toWire now).details = none :=
  ⟨validation "user text", { entityType := some "project" }, default, by decide, rfl, rfl⟩

end TenantGuard.Fault
