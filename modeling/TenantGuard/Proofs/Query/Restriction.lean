import TenantGuard.Query.Restriction
import TenantGuard.Proofs.Plan
import TenantGuard.Proofs.Query.Form
import Mathlib.Data.List.Forall2

/-!
# Restricted parameters reach the backend

What a backend reads is what was restricted: every expression and every selector among a client's
parameters, however they were spelled, and one filter parameter at the end.

* `Dialect.Restricts` says what becomes of one parameter, `Dialect.Refuses` why it stops the
  request; `restrictPair_eq_ok_iff` and `restrictPair_eq_error_iff` tie them to the definition;
* `mapM_eq_ok_iff` and `mapM_eq_error_iff` carry both over to a list: all are taken, or the first
  one that is refused decides;
* `Dialect.restrictPairs_on_wire` is the main statement.
-/

namespace TenantGuard

/-! ## Lists of attempts -/

section Attempts

variable {α β ε : Type} {f : α → Except ε β}

/-- **All attempts succeed**, each with its own result. -/
theorem mapM_eq_ok_iff : ∀ (xs : List α) {ys : List β},
    xs.mapM f = .ok ys ↔ List.Forall₂ (fun x y => f x = .ok y) xs ys
  | [], ys => by
    rw [List.mapM_nil, List.forall₂_nil_left_iff]
    exact ⟨fun h => (Except.ok.inj h).symm, fun h => congrArg Except.ok h.symm⟩
  | x :: xs, ys => by
    rw [List.mapM_cons, bind_eq_ok, List.forall₂_cons_left_iff]
    simp only [bind_eq_ok, mapM_eq_ok_iff xs]
    constructor
    · rintro ⟨y, hy, zs, hzs, ⟨⟩⟩
      exact ⟨y, zs, hy, hzs, rfl⟩
    · rintro ⟨y, zs, hy, hzs, rfl⟩
      exact ⟨y, hy, zs, hzs, rfl⟩

theorem bind_eq_error {x : Except ε α} {e : ε} :
    x >>= f = .error e ↔ x = .error e ∨ ∃ a, x = .ok a ∧ f a = .error e := by
  cases x with
  | error e => simp [bind, Except.bind]
  | ok a => simp [bind, Except.bind]

/-- **The first attempt that fails** decides the error. -/
theorem mapM_eq_error_iff {e : ε} : ∀ xs : List α,
    xs.mapM f = .error e ↔ ∃ before x after, xs = before ++ x :: after ∧
      (∀ y ∈ before, ∃ z, f y = .ok z) ∧ f x = .error e
  | [] => by simp [pure, Except.pure]
  | x :: xs => by
    rw [List.mapM_cons, bind_eq_error]
    simp only [bind_eq_error, mapM_eq_error_iff xs]
    constructor
    · rintro (hx | ⟨y, hy, ⟨before, z, after, rfl, hbefore, hz⟩ | ⟨_, _, ⟨⟩⟩⟩)
      · exact ⟨[], x, xs, rfl, by simp, hx⟩
      · exact ⟨x :: before, z, after, rfl, by simpa using ⟨⟨y, hy⟩, hbefore⟩, hz⟩
    · rintro ⟨_ | ⟨w, before⟩, z, after, heq, hbefore, hz⟩
      · cases heq
        exact .inl hz
      · cases heq
        obtain ⟨y, hy⟩ := hbefore x (by simp)
        exact .inr ⟨y, hy, .inl ⟨before, z, after, rfl, fun v hv => hbefore v (by simp [hv]), hz⟩⟩

end Attempts

namespace Dialect

variable {d : Dialect} {resourceId : String} {p q : Form.Pair} {client ps : List Form.Pair}

/-! ## One parameter -/

/-- **What becomes of a parameter** that is sent on. -/
structure Restricts (d : Dialect) (resourceId : String) (p q : Form.Pair) : Prop where
  name : q.1 = p.1
  query : d.isQueryParam p.1 = true → Expression.injectFilter d p.2 resourceId = .ok q.2
  selector : d.isSelectorParam p.1 = true → Selector.restrict d p.2 resourceId = .ok q.2
  other : d.isQueryParam p.1 = false → d.isSelectorParam p.1 = false → q.2 = p.2

/-- **Why a parameter stops a request**: its expression or its selector cannot be restricted. -/
def Refuses (d : Dialect) (resourceId : String) (p : Form.Pair) (e : QueryFault) : Prop :=
  (d.isQueryParam p.1 = true ∧ Expression.injectFilter d p.2 resourceId = .error e) ∨
    (d.isSelectorParam p.1 = true ∧ Selector.restrict d p.2 resourceId = .error e)

/-- No parameter holds both an expression and a selector. -/
theorem isSelectorParam_eq_false {name : String} (h : d.isQueryParam name = true) :
    d.isSelectorParam name = false := by
  cases d <;> simp_all [isQueryParam, isSelectorParam, spec]

/-- The parameter that goes out for one that came in. -/
def restrictPair (d : Dialect) (resourceId : String) (p : Form.Pair) :
    Except QueryFault Form.Pair := do
  return (p.1, ← d.restrictValue p.1 p.2 resourceId)

theorem restrictPair_eq_ok_iff :
    d.restrictPair resourceId p = .ok q ↔ d.Restricts resourceId p q := by
  obtain ⟨name, value⟩ := p
  obtain ⟨name', value'⟩ := q
  have hpair : d.restrictPair resourceId (name, value) = .ok (name', value') ↔
      name' = name ∧ d.restrictValue name value resourceId = .ok value' := by
    unfold restrictPair
    cases d.restrictValue name value resourceId <;>
      simp [bind, Except.bind, pure, Except.pure, eq_comm]
  rw [hpair, restrictValue]
  cases hquery : d.isQueryParam name with
  | true =>
    have hselector := isSelectorParam_eq_false hquery
    rw [if_pos rfl]
    constructor
    · rintro ⟨hname, hvalue⟩
      exact ⟨hname, fun _ => hvalue, by simp [hselector], by simp [hquery]⟩
    · rintro ⟨hname, hvalue, -, -⟩
      exact ⟨hname, hvalue hquery⟩
  | false =>
    rw [if_neg Bool.false_ne_true]
    cases hselector : d.isSelectorParam name with
    | true =>
      rw [if_pos rfl]
      constructor
      · rintro ⟨hname, hvalue⟩
        exact ⟨hname, by simp [hquery], fun _ => hvalue, by simp [hselector]⟩
      · rintro ⟨hname, -, hvalue, -⟩
        exact ⟨hname, hvalue hselector⟩
    | false =>
      rw [if_neg Bool.false_ne_true]
      constructor
      · rintro ⟨hname, hvalue⟩
        cases hvalue
        exact ⟨hname, by simp [hquery], by simp [hselector], fun _ _ => rfl⟩
      · rintro ⟨hname, -, -, hvalue⟩
        exact ⟨hname, congrArg Except.ok (hvalue hquery hselector).symm⟩

theorem restrictPair_eq_error_iff {e : QueryFault} :
    d.restrictPair resourceId p = .error e ↔ d.Refuses resourceId p e := by
  have hpair : d.restrictPair resourceId p = .error e ↔
      d.restrictValue p.1 p.2 resourceId = .error e := by
    unfold restrictPair
    cases d.restrictValue p.1 p.2 resourceId <;> simp [bind, Except.bind, pure, Except.pure]
  rw [hpair, restrictValue, Refuses]
  cases hquery : d.isQueryParam p.1 with
  | true => simp [isSelectorParam_eq_false hquery]
  | false => cases hselector : d.isSelectorParam p.1 <;> simp

/-! ## All parameters -/

theorem restrictPairs_eq : d.restrictPairs client resourceId =
    (do return (← (d.kept client).mapM (d.restrictPair resourceId)) ++ [d.filterPair resourceId]) :=
  rfl

/-- **The parameters that are sent on**, and the filter behind them. -/
theorem restrictPairs_eq_ok_iff : d.restrictPairs client resourceId = .ok ps ↔
    ∃ qs, List.Forall₂ (d.Restricts resourceId) (d.kept client) qs ∧
      ps = qs ++ [d.filterPair resourceId] := by
  have hkept : ∀ qs, (d.kept client).mapM (d.restrictPair resourceId) = .ok qs ↔
      List.Forall₂ (d.Restricts resourceId) (d.kept client) qs := fun qs => by
    simp only [mapM_eq_ok_iff, restrictPair_eq_ok_iff]
  simp only [← hkept, restrictPairs_eq]
  cases (d.kept client).mapM (d.restrictPair resourceId) <;>
    simp [bind, Except.bind, pure, Except.pure, eq_comm]

/-- **What goes to the backend** for the parameters of a client. -/
structure Restriction (d : Dialect) (resourceId : String) (client ps : List Form.Pair) :
    Prop where
  /-- There is one filter parameter, for the resource. -/
  filter : ps.filter (·.1 == d.spec.extraFilterParam) =
    [(d.spec.extraFilterParam, d.extraFilter resourceId)]
  last : ps.getLast? = some (d.spec.extraFilterParam, d.extraFilter resourceId)
  /-- The others are the client's, one by one and in order. -/
  others : List.Forall₂ (d.Restricts resourceId)
    (client.filter (·.1 != d.spec.extraFilterParam))
    (ps.filter (·.1 != d.spec.extraFilterParam))

/-- **The first parameter that is refused.** -/
def FirstRefused (d : Dialect) (resourceId : String) (client : List Form.Pair) (e : QueryFault) :
    Prop :=
  ∃ before p after, client.filter (·.1 != d.spec.extraFilterParam) = before ++ p :: after ∧
    (∀ q ∈ before, ∃ q', d.Restricts resourceId q q') ∧ d.Refuses resourceId p e

theorem map_fst_of_forall₂ {ps qs : List Form.Pair}
    (h : List.Forall₂ (d.Restricts resourceId) ps qs) : qs.map Prod.fst = ps.map Prod.fst := by
  induction h with
  | nil => rfl
  | cons hpq _ ih => rw [List.map_cons, List.map_cons, hpq.name, ih]

/-- Parameters that were kept keep their names, and so none of them is the filter. -/
theorem name_ne_of_forall₂ {qs : List Form.Pair}
    (h : List.Forall₂ (d.Restricts resourceId) (d.kept client) qs) :
    ∀ q ∈ qs, q.1 ≠ d.spec.extraFilterParam := by
  intro q hq
  have hname : q.1 ∈ (d.kept client).map Prod.fst :=
    map_fst_of_forall₂ h ▸ List.mem_map_of_mem hq
  obtain ⟨p, hp, hpq⟩ := List.mem_map.1 hname
  have hne := (List.mem_filter.1 hp).2
  rw [← hpq]
  simpa using hne

theorem restrictPairs_eq_ok_iff_restriction : d.restrictPairs client resourceId = .ok ps ↔
    d.Restriction resourceId client ps := by
  rw [restrictPairs_eq_ok_iff]
  constructor
  · rintro ⟨qs, hqs, rfl⟩
    have hne := name_ne_of_forall₂ hqs
    have hfilter : qs.filter (·.1 == d.spec.extraFilterParam) = [] := by
      simpa [List.filter_eq_nil_iff] using fun name value h => hne (name, value) h
    have hothers : qs.filter (·.1 != d.spec.extraFilterParam) = qs := by
      simpa [List.filter_eq_self] using fun name value h => hne (name, value) h
    exact
      { filter := by simp [List.filter_append, hfilter, filterPair]
        last := by simp [filterPair]
        others := by simpa [List.filter_append, hothers, filterPair, kept] using hqs }
  · intro h
    obtain ⟨qs, rfl⟩ := List.getLast?_eq_some_iff.1 h.last
    have hfilter : qs.filter (·.1 == d.spec.extraFilterParam) = [] := by
      simpa [List.filter_append] using h.filter
    have hothers : qs.filter (·.1 != d.spec.extraFilterParam) = qs := by
      rw [List.filter_eq_self]
      rw [List.filter_eq_nil_iff] at hfilter
      exact fun q hq => by simpa using hfilter q hq
    refine ⟨qs, ?_, rfl⟩
    simpa [List.filter_append, hothers, kept] using h.others

theorem restrictPairs_eq_error_iff {e : QueryFault} :
    d.restrictPairs client resourceId = .error e ↔ d.FirstRefused resourceId client e := by
  have hkept : d.restrictPairs client resourceId = .error e ↔
      (d.kept client).mapM (d.restrictPair resourceId) = .error e := by
    rw [restrictPairs_eq]
    cases (d.kept client).mapM (d.restrictPair resourceId) <;>
      simp [bind, Except.bind, pure, Except.pure]
  rw [hkept, mapM_eq_error_iff]
  simp only [restrictPair_eq_ok_iff, restrictPair_eq_error_iff]
  rfl

/-- **What the backend reads is what was restricted.**  Of the parameters that a text holds, those
that are sent on are as `Restriction` says, or the first one that is refused stops the request; and
the text that carries parameters is read back as them. -/
theorem restrictPairs_on_wire (d : Dialect) (text resourceId : String) :
    (∀ ps, d.restrictPairs (Form.parse text) resourceId = .ok ps ↔
      d.Restriction resourceId (Form.parse text) ps) ∧
    (∀ e, d.restrictPairs (Form.parse text) resourceId = .error e ↔
      d.FirstRefused resourceId (Form.parse text) e) ∧
    ∀ ps, Form.parse (Form.encode ps) = ps :=
  ⟨fun _ => restrictPairs_eq_ok_iff_restriction, fun _ => restrictPairs_eq_error_iff,
    Form.parse_encode⟩

/-- A filter of the client's own is dropped, even if its name is spelled with a triple. -/
example : metrics.restrictEncoded "q=a+b&%65xtra_label=resource_id%3Dr2" "r1" =
    .ok "q=a+b&extra_label=resource_id%3Dr1" := by
  decide +kernel

end Dialect

end TenantGuard
