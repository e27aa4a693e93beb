import TenantGuard.Context

/-!
# When guarded steps end

Works run one after the other under a deadline and a cancellation to come.  Three events may end a
step that waits: its work is done, the deadline passes, the context is cancelled.

* `Limits.Event` is such an event, and `Limits.StepEnds` says how a step ends: at once under a
  cancelled context and for work that is ready, and else with the earliest event;
* `ending_cases`: which of the three decides a step that waits;
* `stepEnds_ending`: a step ends so, where no two of its events are due at one instant;
* `Limits.returned` lists what the steps of a run return, `Throughout` says something of each of
  them, and `returns_returned` says that every one ends as it must;
* `all_cancelled` and `all_at_once`: behind the cancellation and behind the deadline the clock
  stands still;
* `steps_end_in_time`: outcome and timing of a whole run.
-/

namespace TenantGuard.Limits

variable {α : Type} {deadline cancelAt duration : Option Nat} {start t : Instant} {e : Ending}

/-! ## One step -/

/-- **An event that may end a step that waits**, and when. -/
inductive Event (deadline cancelAt : Option Instant) (start : Instant) (duration : Option Nat) :
    Ending → Instant → Prop where
  | cancelled {c : Instant} (h : cancelAt = some c) :
      Event deadline cancelAt start duration .cancelled c
  | timedOut {d : Instant} (h : deadline = some d) :
      Event deadline cancelAt start duration .timedOut (max start d)
  | finished {n : Nat} (h : duration = some n) :
      Event deadline cancelAt start duration .finished (start + n)

/-- **The earliest event**, before all others. -/
structure Earliest (deadline cancelAt : Option Instant) (start : Instant) (duration : Option Nat)
    (e : Ending) (t : Instant) : Prop where
  event : Event deadline cancelAt start duration e t
  before : ∀ e' t', Event deadline cancelAt start duration e' t' → e' ≠ e → t < t'

/-- Whether the cancellation has come by an instant. -/
def Cancelled (cancelAt : Option Instant) (t : Instant) : Prop := ∃ c, cancelAt = some c ∧ c ≤ t

/-- **How a step ends, and when.** -/
inductive StepEnds (deadline cancelAt : Option Instant) (start : Instant) (duration : Option Nat) :
    Ending → Instant → Prop where
  | notRun (h : Cancelled cancelAt start) :
      StepEnds deadline cancelAt start duration .cancelled start
  | atOnce (h : ¬ Cancelled cancelAt start) (hready : duration = some 0) :
      StepEnds deadline cancelAt start duration .finished start
  | waited {e : Ending} {t : Instant} (h : ¬ Cancelled cancelAt start) (hwaits : duration ≠ some 0)
      (hearliest : Earliest deadline cancelAt start duration e t) :
      StepEnds deadline cancelAt start duration e t

/-- **No two events of a step are due at one instant.** -/
structure Apart (deadline cancelAt : Option Instant) (start : Instant) (duration : Option Nat) :
    Prop where
  limits : ∀ d, deadline = some d → cancelAt ≠ some d
  work : ∀ n, duration = some n → n ≠ 0 → deadline ≠ some (start + n) ∧ cancelAt ≠ some (start + n)

/-- Something ends the step. -/
def Ends (deadline cancelAt duration : Option Nat) : Prop :=
  duration ≠ none ∨ deadline ≠ none ∨ cancelAt ≠ none

theorem before_map_iff {a : Option Instant} {b : Option Nat} {f : Nat → Instant} :
    Instant.before a (b.map f) = true ↔ ∃ x, a = some x ∧ ∀ y, b = some y → x < f y := by
  cases a <;> cases b <;> simp [Instant.before]

theorem not_before_map_iff {a : Option Instant} {b : Option Nat} {f : Nat → Instant} :
    Instant.before a (b.map f) = false ↔ ∀ x, a = some x → ∃ y, b = some y ∧ f y ≤ x := by
  cases a <;> cases b <;> simp [Instant.before]

/-- **What decides a step that waits**: a cancellation before the other two events, work that is
done no later than they come, or a deadline before the work is done and no later than the
cancellation. -/
theorem ending_cases (start : Instant) (hwaits : duration ≠ some 0)
    (hends : Ends deadline cancelAt duration) :
    (∃ c, cancelAt = some c ∧
      (⟨deadline, cancelAt, false⟩ : Limits).ending start duration = (.cancelled, c) ∧
      (∀ d, deadline = some d → c < max start d) ∧ ∀ n, duration = some n → c < start + n) ∨
    (∃ n, duration = some n ∧
      (⟨deadline, cancelAt, false⟩ : Limits).ending start duration = (.finished, start + n) ∧
      (∀ d, deadline = some d → start + n ≤ max start d) ∧ ∀ c, cancelAt = some c → start + n ≤ c) ∨
    ∃ d, deadline = some d ∧
      (⟨deadline, cancelAt, false⟩ : Limits).ending start duration = (.timedOut, max start d) ∧
      (∀ n, duration = some n → max start d < start + n) ∧
      ∀ c, cancelAt = some c → max start d ≤ c := by
  simp only [ending, Bool.false_eq_true, if_false, if_neg hwaits]
  by_cases hcancel : (Instant.before cancelAt (duration.map (start + ·)) &&
      Instant.before cancelAt (deadline.map (max start))) = true
  · rw [if_pos hcancel]
    rw [Bool.and_eq_true, before_map_iff, before_map_iff] at hcancel
    obtain ⟨⟨c, rfl, hdone⟩, c', hc', hdeadline⟩ := hcancel
    cases hc'
    exact .inl ⟨c, rfl, rfl, hdeadline, hdone⟩
  -- the cancellation comes no sooner than one of the other two events
  rw [if_neg hcancel]
  rw [Bool.not_eq_true, Bool.and_eq_false_iff, not_before_map_iff, not_before_map_iff] at hcancel
  by_cases hfinish : (duration.isSome && !Instant.before (deadline.map (max start))
      (duration.map (start + ·))) = true
  · rw [if_pos hfinish]
    rw [Bool.and_eq_true, Option.isSome_iff_exists, Bool.not_eq_true', not_before_map_iff] at hfinish
    obtain ⟨⟨n, rfl⟩, hdeadline⟩ := hfinish
    have hD : ∀ d, deadline = some d → start + n ≤ max start d := by
      intro d hd
      obtain ⟨_, ⟨⟩, hle⟩ := hdeadline _ (congrArg _ hd)
      exact hle
    refine .inr (.inl ⟨n, rfl, rfl, hD, fun c hc => ?_⟩)
    rcases hcancel with h | h
    · obtain ⟨_, ⟨⟩, hle⟩ := h c hc
      exact hle
    · obtain ⟨d, hd, hle⟩ := h c hc
      exact Nat.le_trans (hD d hd) hle
  · rw [if_neg hfinish]
    rw [Bool.not_eq_true, Bool.and_eq_false_iff, Bool.not_eq_false', before_map_iff] at hfinish
    obtain ⟨d, rfl, hW⟩ : ∃ d, deadline = some d ∧
        ∀ n, duration = some n → max start d < start + n := by
      rcases hfinish with hendless | ⟨x, hx, hdone⟩
      · rw [Option.isSome_eq_false_iff, Option.isNone_iff_eq_none] at hendless
        subst hendless
        -- work that never ends: either limit leads to a deadline
        rcases hends.resolve_left (· rfl) with hdeadline | hcancelled
        · obtain ⟨d, hd⟩ := Option.ne_none_iff_exists'.1 hdeadline
          exact ⟨d, hd, nofun⟩
        · obtain ⟨c, hc⟩ := Option.ne_none_iff_exists'.1 hcancelled
          obtain ⟨_, ⟨⟩, -⟩ | ⟨d, hd, -⟩ := hcancel.imp (· c hc) (· c hc)
          exact ⟨d, hd, nofun⟩
      · obtain ⟨d, hd, rfl⟩ := Option.map_eq_some_iff.1 hx
        exact ⟨d, hd, hdone⟩
    refine .inr (.inr ⟨d, rfl, rfl, hW, fun c hc => ?_⟩)
    rcases hcancel with h | h
    · obtain ⟨n, hn, hle⟩ := h c hc
      exact Nat.le_trans (Nat.le_of_lt (hW n hn)) hle
    · obtain ⟨_, ⟨⟩, hle⟩ := h c hc
      exact hle

theorem lt_max_of_ne {s d n : Nat} (hn : n ≠ 0) (hle : s + n ≤ max s d) (hne : d ≠ s + n) :
    s + n < max s d := by omega

theorem max_lt_of_ne {s d c : Nat} (hlt : s < c) (hle : max s d ≤ c) (hne : c ≠ d) :
    max s d < c := by omega

/-- **The earliest event ends a step that waits.** -/
theorem earliest_ending (hlive : ¬ Cancelled cancelAt start) (hwaits : duration ≠ some 0)
    (hapart : Apart deadline cancelAt start duration) (hends : Ends deadline cancelAt duration) :
    Earliest deadline cancelAt start duration
      ((⟨deadline, cancelAt, false⟩ : Limits).ending start duration).1
      ((⟨deadline, cancelAt, false⟩ : Limits).ending start duration).2 := by
  rcases ending_cases start hwaits hends with
    ⟨c, hc, heq, hD, hW⟩ | ⟨n, hn, heq, hD, hC⟩ | ⟨d, hd, heq, hW, hC⟩
  · rw [heq]
    refine ⟨.cancelled hc, fun e' t' hevent hne => ?_⟩
    cases hevent with
    | cancelled h => exact (hne rfl).elim
    | timedOut h => exact hD _ h
    | finished h => exact hW _ h
  · rw [heq]
    have hpos : n ≠ 0 := fun h => hwaits (h ▸ hn)
    obtain ⟨hneD, hneC⟩ := hapart.work n hn hpos
    refine ⟨.finished hn, fun e' t' hevent hne => ?_⟩
    cases hevent with
    | cancelled h =>
      exact Nat.lt_of_le_of_ne (hC t' h) fun hat : start + n = t' => hneC (hat ▸ h)
    | @timedOut d h => exact lt_max_of_ne hpos (hD d h) fun hat => hneD (hat ▸ h)
    | finished h => exact (hne rfl).elim
  · rw [heq]
    refine ⟨.timedOut hd, fun e' t' hevent hne => ?_⟩
    cases hevent with
    | cancelled h =>
      have hlate : start < t' := Nat.lt_of_not_le fun hle => hlive ⟨t', h, hle⟩
      exact max_lt_of_ne hlate (hC t' h) fun hat => hapart.limits d hd (hat ▸ h)
    | timedOut h => exact (hne rfl).elim
    | finished h => exact hW _ h

/-! ## Steps that follow each other -/

/-- **A step ends as it must**, whatever flag it carries: the flag says whether the cancellation has
come. -/
theorem stepEnds_ending {flag : Bool} (hflag : flag = true ↔ Cancelled cancelAt start)
    (hapart : ¬ Cancelled cancelAt start → Apart deadline cancelAt start duration)
    (hends : Ends deadline cancelAt duration) :
    StepEnds deadline cancelAt start duration
      ((⟨deadline, cancelAt, flag⟩ : Limits).ending start duration).1
      ((⟨deadline, cancelAt, flag⟩ : Limits).ending start duration).2 := by
  cases flag with
  | true => exact .notRun (hflag.1 rfl)
  | false =>
    have hlive : ¬ Cancelled cancelAt start := fun h => nomatch hflag.2 h
    by_cases hready : duration = some 0
    · subst hready
      exact .atOnce hlive rfl
    · exact .waited hlive hready (earliest_ending hlive hready (hapart hlive) hends)

/-- A step was cancelled exactly if the cancellation has come by its end. -/
theorem StepEnds.cancelled_iff (h : StepEnds deadline cancelAt start duration e t) :
    e = .cancelled ↔ Cancelled cancelAt t := by
  cases h with
  | notRun h => exact ⟨fun _ => h, fun _ => rfl⟩
  | atOnce h hready => exact ⟨nofun, fun hc => (h hc).elim⟩
  | waited h hwaits hearliest =>
    constructor
    · rintro rfl
      cases hearliest.event with
      | cancelled hc => exact ⟨t, hc, Nat.le_refl t⟩
    · rintro ⟨c, hc, hle⟩
      refine Decidable.byContradiction fun hne => ?_
      exact Nat.not_lt.2 hle (hearliest.before _ c (.cancelled hc) (Ne.symm hne))

/-- No step ends before it starts. -/
theorem StepEnds.start_le (h : StepEnds deadline cancelAt start duration e t) : start ≤ t := by
  cases h with
  | notRun h => exact Nat.le_refl start
  | atOnce h hready => exact Nat.le_refl start
  | waited h hwaits hearliest =>
    cases hearliest.event with
    | cancelled hc => exact Nat.le_of_not_le fun hle => h ⟨t, hc, hle⟩
    | timedOut hd => exact Nat.le_max_left _ _
    | finished hn => exact Nat.le_add_right _ _

/-- **No step ends later than its deadline**, or than it starts. -/
theorem StepEnds.le_deadline (h : StepEnds deadline cancelAt start duration e t) {d : Instant}
    (hd : deadline = some d) : t ≤ max start d := by
  cases h with
  | notRun h => exact Nat.le_max_left _ _
  | atOnce h hready => exact Nat.le_max_left _ _
  | waited h hwaits hearliest =>
    by_cases he : e = .timedOut
    · subst he
      cases hearliest.event with
      | timedOut hd' =>
        cases hd.symm.trans hd'
        exact Nat.le_refl _
    · exact Nat.le_of_lt (hearliest.before _ _ (.timedOut hd) (Ne.symm he))

/-- A step that starts behind the cancellation is cancelled. -/
theorem StepEnds.of_cancelled (h : StepEnds deadline cancelAt start duration e t)
    (hcancelled : Cancelled cancelAt start) : e = .cancelled ∧ t = start := by
  cases h with
  | notRun => exact ⟨rfl, rfl⟩
  | atOnce h => exact (h hcancelled).elim
  | waited h => exact (h hcancelled).elim

/-- A step that starts past its deadline takes no time. -/
theorem StepEnds.of_late (h : StepEnds deadline cancelAt start duration e t) {d : Instant}
    (hd : deadline = some d) (hlate : d ≤ start) : t = start :=
  Nat.le_antisymm (Nat.max_eq_left hlate ▸ h.le_deadline hd) h.start_le

/-- A step that times out has a deadline, and ends no sooner. -/
theorem StepEnds.deadline_le (h : StepEnds deadline cancelAt start duration .timedOut t) :
    ∃ d, deadline = some d ∧ d ≤ t := by
  cases h with
  | waited h hwaits hearliest =>
    cases hearliest.event with
    | timedOut hd => exact ⟨_, hd, Nat.le_max_right _ _⟩

/-- **What a step of a run returned**, and when. -/
structure Returned (α : Type) where
  ending : Ending
  result : Except Fault α
  instant : Instant

/-- **Runs works one after the other** under limits. -/
def returned (l : Limits) (operation : String) (start : Instant) (works : List (Work α)) :
    List (Returned α) :=
  works.zipWith (fun w e => ⟨e.1, Limits.result operation w e.1, e.2⟩)
    (l.endings start (works.map (·.duration)))

/-- **A property of every step of a run**: of its start, which is the end of the step before, of its
work and of what it returned. -/
inductive Throughout (P : Instant → Work α → Returned α → Prop) :
    Instant → List (Work α) → List (Returned α) → Prop where
  | nil {start : Instant} : Throughout P start [] []
  | cons {start : Instant} {w : Work α} {ws : List (Work α)} {r : Returned α}
      {rs : List (Returned α)} (head : P start w r) (tail : Throughout P r.instant ws rs) :
      Throughout P start (w :: ws) (r :: rs)

variable {P P' : Instant → Work α → Returned α → Prop} {works : List (Work α)}
  {rs : List (Returned α)}

theorem Throughout.imp (himp : ∀ start w r, P start w r → P' start w r)
    (h : Throughout P start works rs) : Throughout P' start works rs := by
  induction h with
  | nil => exact .nil
  | cons head tail ih => exact .cons (himp _ _ _ head) ih

/-- **What a step returns**: its own result, unless it was cancelled or timed out. -/
structure Returns (operation : String) (deadline cancelAt : Option Instant) (start : Instant)
    (w : Work α) (r : Returned α) : Prop where
  ends : StepEnds deadline cancelAt start w.duration r.ending r.instant
  result : r.result = Limits.result operation w r.ending

/-- No two events of a step that is run are due at one instant. -/
def Distinct (deadline cancelAt : Option Instant) :
    Instant → List (Work α) → List (Returned α) → Prop :=
  Throughout fun start w _ => ¬ Cancelled cancelAt start → Apart deadline cancelAt start w.duration

variable {operation : String}

theorem returned_cons (l : Limits) (operation : String) (start : Instant) (w : Work α)
    (works : List (Work α)) : l.returned operation start (w :: works) =
      ⟨(l.ending start w.duration).1, Limits.result operation w (l.ending start w.duration).1,
          (l.ending start w.duration).2⟩ ::
        ({ l with cancelled := decide ((l.ending start w.duration).1 = .cancelled) } : Limits).returned
          operation (l.ending start w.duration).2 works :=
  rfl

/-- **Every step of a run returns as it must.** -/
theorem returns_returned
    (hends : ∀ w ∈ works, Ends deadline cancelAt w.duration) {flag : Bool} {start : Instant}
    (hflag : flag = true ↔ Cancelled cancelAt start)
    (hdistinct : Distinct deadline cancelAt start works
      ((⟨deadline, cancelAt, flag⟩ : Limits).returned operation start works)) :
    Throughout (Returns operation deadline cancelAt) start works
      ((⟨deadline, cancelAt, flag⟩ : Limits).returned operation start works) := by
  induction works generalizing flag start with
  | nil => exact .nil
  | cons w works ih =>
    rw [returned_cons] at hdistinct ⊢
    cases hdistinct with
    | cons hapart hrest =>
      have hstep := stepEnds_ending hflag hapart (hends w List.mem_cons_self)
      refine .cons ⟨hstep, rfl⟩ (ih (fun w hw => hends w (List.mem_cons_of_mem _ hw)) ?_ hrest)
      rw [decide_eq_true_iff]
      exact hstep.cancelled_iff

/-! ## When the clock stands still -/

/-- What returns at once leaves the next step where it was itself. -/
theorem Throughout.forall_at_once {Q : Returned α → Prop} (h : Throughout P start works rs)
    (hstep : ∀ w r, P start w r → Q r ∧ r.instant = start) :
    ∀ r ∈ rs, Q r ∧ r.instant = start := by
  induction h with
  | nil => exact List.forall_mem_nil _
  | cons head tail ih =>
    obtain ⟨hQ, hat⟩ := hstep _ _ head
    rw [hat] at ih
    exact List.forall_mem_cons.2 ⟨⟨hQ, hat⟩, ih hstep⟩

/-- What holds between a step and those behind it holds between any two. -/
theorem Throughout.pairwise {R : Returned α → Returned α → Prop} (h : Throughout P start works rs)
    (hstep : ∀ start w r ws rs, P start w r → Throughout P r.instant ws rs → ∀ r' ∈ rs, R r r') :
    rs.Pairwise R := by
  induction h with
  | nil => exact .nil
  | cons head tail ih => exact .cons (hstep _ _ _ _ _ head tail) ih

/-- **Behind the cancellation** every step is cancelled at once. -/
theorem all_cancelled (h : Throughout (Returns operation deadline cancelAt) start works rs)
    (hcancelled : Cancelled cancelAt start) :
    ∀ r ∈ rs, r.ending = .cancelled ∧ r.instant = start :=
  h.forall_at_once fun _ _ hstep => hstep.ends.of_cancelled hcancelled

/-- **Behind the deadline** no step takes any time. -/
theorem all_at_once (h : Throughout (Returns operation deadline cancelAt) start works rs)
    {d : Instant} (hd : deadline = some d) (hlate : d ≤ start) : ∀ r ∈ rs, r.instant = start :=
  fun r hr => (h.forall_at_once (Q := fun _ => True)
    (fun _ _ hstep => ⟨trivial, hstep.ends.of_late hd hlate⟩) r hr).2

/-- **Outcome and timing of guarded steps.**  Works run one after the other under a deadline and a
cancellation to come, and no two events are due at one instant.  A step that starts behind the
cancellation is cancelled and its work is not run; work that is ready finishes, also past the
deadline; and otherwise the earliest of the three events decides.  So no step returns later than the
deadline or its start, all steps behind one that was cancelled are cancelled at the same instant,
and no step behind one that timed out takes any time. -/
theorem steps_end_in_time (deadline cancelAt : Option Instant) (now : Instant)
    (operation : String) (works : List (Work α))
    (hends : ∀ w ∈ works, Ends deadline cancelAt w.duration)
    (hdistinct : Distinct deadline cancelAt now works
      ((startingAt now deadline cancelAt).returned operation now works)) :
    let rs := (startingAt now deadline cancelAt).returned operation now works
    Throughout (Returns operation deadline cancelAt) now works rs ∧
    (∀ d, deadline = some d → Throughout (fun start _ r => r.instant ≤ max start d) now works rs) ∧
    (rs.Pairwise fun r r' =>
      r.ending = .cancelled → r'.ending = .cancelled ∧ r'.instant = r.instant) ∧
    rs.Pairwise fun r r' => r.ending = .timedOut → r'.instant = r.instant := by
  have hflag : cancelAt.any (· ≤ now) = true ↔ Cancelled cancelAt now := by
    simp [Cancelled, Option.any_eq_true]
  have hrun := returns_returned hends hflag hdistinct
  refine ⟨hrun, fun d hd => hrun.imp fun _ _ _ hstep => hstep.ends.le_deadline hd,
    hrun.pairwise fun _ _ r _ _ hstep hrest r' hr' hcancelled => ?_,
    hrun.pairwise fun _ _ r _ _ hstep hrest r' hr' hlate => ?_⟩
  · exact all_cancelled hrest (hstep.ends.cancelled_iff.1 hcancelled) r' hr'
  · obtain ⟨d, hd, hle⟩ := (hlate ▸ hstep.ends).deadline_le
    exact all_at_once hrest hd hle r' hr'

/-- Work that never ends holds a run up to its deadline.  Behind it, ready work still finishes. -/
theorem steps_end_in_time_late :
    let works : List (Work Unit) :=
      [⟨some 20, .ok ()⟩, ⟨none, .ok ()⟩, ⟨some 0, .ok ()⟩, ⟨some 5, .ok ()⟩]
    let rs := (startingAt 0 (some 50) (some 70)).returned "load" 0 works
    rs.map (fun r => (r.ending, r.instant)) =
      [(.finished, 20), (.timedOut, 50), (.finished, 50), (.timedOut, 50)] ∧
    Throughout (Returns "load" (some 50) (some 70)) 0 works rs := by
  intro works rs
  have hends : ∀ w ∈ works, Ends (some 50) (some 70) w.duration := fun _ _ => .inr (.inl nofun)
  have hdistinct : Distinct (some 50) (some 70) 0 works rs := by
    refine .cons (fun _ => ⟨?_, ?_⟩) (.cons (fun _ => ⟨?_, ?_⟩) (.cons (fun _ => ⟨?_, ?_⟩)
      (.cons (fun _ => ⟨?_, ?_⟩) .nil)))
    all_goals simp [startingAt]
  exact ⟨rfl, (steps_end_in_time (some 50) (some 70) 0 "load" works hends hdistinct).1⟩

end TenantGuard.Limits
