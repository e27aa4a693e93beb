import Mathlib.Logic.Function.Basic
import TenantGuard.Proofs.Disturbance
import TenantGuard.Proofs.Store.Reachable
import TenantGuard.Proofs.Transaction

/-!
# A store and its clients

Any number of clients work with one store, each at its own pace.  A transaction has a copy of the
contents and puts it in their place when it commits, which would lose what others committed in
between, were it not for the lock.

* a `Shared` store has a copy for each open transaction, and `Shared.Step` says what its clients can
  do, one step at a time;
* `History` keeps what was committed, and for each open transaction what was performed in it;
  `State.serial` carries out what was committed, one transaction after the other;
* `History.Explains` is the invariant of every run: the contents are those of the serial execution,
  and every copy is what its transaction made of them;
* `Shared.serializable`: what that means for everybody who reads and writes.
-/

namespace TenantGuard.Store

/-! ## Clients -/

/-- **A store that clients share.**  A client with an open transaction has a copy of the contents;
it got the lock to begin, and keeps it until the transaction ends. -/
structure Shared (ι : Type) where
  committed : State
  lock : Option ι := none
  copies : ι → Option State := fun _ => none
  failing : List FailPoint := []
  latency : Nat := 0

/-- **What can be looked at directly**, without a question that can fail. -/
inductive Look where
  | rows (userId : String)
  | user (userId : String)
  | organizations
  | projects

namespace Look

def Answer : Look → Type
  | rows _ => List Assignment
  | user _ => Option User
  | organizations | projects => Nat

/-- What is seen in a store. -/
def seen (s : Store) : (l : Look) → l.Answer
  | rows userId => s.rowsOf userId
  | user userId => s.committed.users.find? userId
  | organizations => s.committed.organizations.size
  | projects => s.committed.projects.size

end Look

/-- **What a client does**, and what it is told. -/
inductive Event (ι : Type) where
  | begun (i : ι)
  | refused (i : ι) (e : Fault)
  | performed (i : ι) (now : Moment) (op : Operation) (result : Except Fault op.Answer)
  | committed (i : ι) (result : Except Fault Unit)
  | dropped (i : ι)
  | asked (now : Moment) (q : Query) (result : Except Fault q.Answer)
  | looked (l : Look) (result : l.Answer)
  | seeded (row : Assignment)
  | adjusted (failing : List FailPoint) (latency : Nat)

namespace Shared

variable {ι : Type}

/-- The store as everybody finds it: it is locked while a transaction is open. -/
def store (s : Shared ι) : Store := ⟨s.committed, s.lock.bind s.copies, s.failing, s.latency⟩

/-- The store as a client's transaction has it. -/
def view (s : Shared ι) (i : ι) : Store := { s.store with working := s.copies i }

variable [DecidableEq ι]

/-- What is left when a client's step on its transaction leaves a store: without the transaction,
the lock is free. -/
def after (s : Shared ι) (i : ι) (x : Store) : Shared ι :=
  { s with
    committed := x.committed
    lock := x.working.map fun _ => i
    copies := Function.update s.copies i x.working }

/-- **One step of a client.**  Each step ends at a pace of its own: it may fail, time out or be
cancelled.  A step that needs the lock comes after the transaction it waits for. -/
inductive Step (s : Shared ι) : Event ι → Shared ι → Prop where
  | begun {τ : Type} (i : ι) (pace : Pace τ) (t : τ) :
    (pace.outcome "begin" t s.store.beginWork).1 = .ok () →
    Step s (.begun i) (s.after i { s.store with working := some s.committed })
  | refused {τ : Type} (i : ι) (pace : Pace τ) (t : τ) (e : Fault) :
    (pace.outcome "begin" t s.store.beginWork).1 = .error e → Step s (.refused i e) s
  | performed {τ : Type} (i : ι) (pace : Pace τ) (t : τ) (now : Moment) (op : Operation) :
    (s.copies i).isSome = true →
    Step s (.performed i now op (performAt pace now op (s.view i, t)).1)
      (s.after i (performAt pace now op (s.view i, t)).2.1)
  | committed {τ : Type} (i : ι) (pace : Pace τ) (t : τ) : (s.copies i).isSome = true →
    Step s (.committed i (commitAt pace (s.view i, t)).1)
      (s.after i (commitAt pace (s.view i, t)).2.1)
  | dropped (i : ι) : (s.copies i).isSome = true →
    Step s (.dropped i) (s.after i (s.view i).rollback)
  | asked {τ : Type} (pace : Pace τ) (t : τ) (now : Moment) (q : Query) :
    Step s (.asked now q (askAt pace now q (s.store, t)).1) s
  | looked (l : Look) : s.store.isLocked = false → Step s (.looked l (l.seen s.store)) s
  | seeded (row : Assignment) : s.store.isLocked = false →
    Step s (.seeded row) { s with committed := (s.store.seed row).committed }
  | adjusted (failing : List FailPoint) (latency : Nat) :
    Step s (.adjusted failing latency) { s with failing, latency }

/-- **A run of steps**, by any clients in any order. -/
inductive Run : Shared ι → List (Event ι) → Shared ι → Prop where
  | nil (s : Shared ι) : Run s [] s
  | cons {s s' t : Shared ι} {e : Event ι} {es : List (Event ι)} : s.Step e s' → Run s' es t →
    Run s (e :: es) t

theorem Run.split {s t : Shared ι} {pre post : List (Event ι)} (h : Run s (pre ++ post) t) :
    ∃ mid, Run s pre mid ∧ Run mid post t := by
  induction pre generalizing s with
  | nil => exact ⟨s, .nil s, h⟩
  | cons e pre ih =>
    cases h with
    | cons hstep hrest =>
      obtain ⟨mid, hpre, hpost⟩ := ih hrest
      exact ⟨mid, .cons hstep hpre, hpost⟩

end Shared

/-! ## Serial execution -/

/-- **What was done to the contents**: a transaction with its operations, or a seeded row. -/
inductive Deed where
  | transaction (ops : List (Moment × Operation))
  | seed (row : Assignment)

namespace State

/-- Performs the operations of a transaction one after the other. -/
def replay (s : State) (ops : List (Moment × Operation)) : State :=
  ops.foldl (fun s op => (Change.direct op.1 op.2 s).2) s

/-- Carries out one deed as a whole. -/
def carryOut (s : State) : Deed → State
  | .transaction ops => s.replay ops
  | .seed row => { s with assignments := s.assignments ++ [row] }

/-- **The serial execution** of deeds, each one as a whole. -/
def serial (s : State) (deeds : List Deed) : State := deeds.foldl carryOut s

theorem replay_append (s : State) (ops : List (Moment × Operation)) (now : Moment)
    (op : Operation) :
    s.replay (ops ++ [(now, op)]) = (Change.direct now op (s.replay ops)).2 := by
  simp [replay]

theorem serial_append (s : State) (deeds : List Deed) (d : Deed) :
    s.serial (deeds ++ [d]) = (s.serial deeds).carryOut d := by
  simp [serial]

end State

/-- **What clients have done so far**: what was committed, in this order, and what was performed in
each open transaction. -/
structure History (ι : Type) where
  deeds : List Deed := []
  pending : ι → Option (List (Moment × Operation)) := fun _ => none

namespace History

variable {ι : Type}

section Events

variable [DecidableEq ι]

/-- The history after one more event.  Operations that failed have done nothing. -/
def next (h : History ι) : Event ι → History ι
  | .begun i => ⟨h.deeds, Function.update h.pending i (some [])⟩
  | .performed i now op (.ok _) =>
    ⟨h.deeds, Function.update h.pending i ((h.pending i).map (· ++ [(now, op)]))⟩
  | .committed i (.ok ()) =>
    ⟨h.deeds ++ [.transaction ((h.pending i).getD [])], Function.update h.pending i none⟩
  | .committed i (.error _) | .dropped i => ⟨h.deeds, Function.update h.pending i none⟩
  | .seeded row => ⟨h.deeds ++ [.seed row], h.pending⟩
  | _ => h

/-- The history after a run. -/
def ofEvents (es : List (Event ι)) : History ι := es.foldl next {}

/-- What was committed stays. -/
theorem deeds_prefix_next (h : History ι) (e : Event ι) : h.deeds <+: (h.next e).deeds := by
  unfold next
  split <;> simp

theorem deeds_prefix_foldl (h : History ι) (es : List (Event ι)) :
    h.deeds <+: (es.foldl next h).deeds := by
  induction es generalizing h with
  | nil => exact List.prefix_rfl
  | cons e es ih => exact (h.deeds_prefix_next e).trans (ih _)

theorem deeds_prefix_append (pre post : List (Event ι)) :
    (ofEvents pre).deeds <+: (ofEvents (pre ++ post)).deeds := by
  rw [ofEvents, ofEvents, List.foldl_append]
  exact deeds_prefix_foldl _ post

/-- What an event brought about stays. -/
theorem deeds_next_prefix (pre : List (Event ι)) (e : Event ι) (post : List (Event ι)) :
    ((ofEvents pre).next e).deeds <+: (ofEvents (pre ++ e :: post)).deeds := by
  rw [ofEvents, ofEvents, List.foldl_append]
  exact deeds_prefix_foldl _ post

end Events

/-! ## The invariant -/

/-- **A history that explains a store**: the contents are those of the serial execution, and a copy
is what its transaction made of them. -/
structure Explains (h : History ι) (s₀ : State) (s : Shared ι) : Prop where
  committed : s.committed = s₀.serial h.deeds
  copies : ∀ i, s.copies i = (h.pending i).map s.committed.replay
  holder : ∀ i, (s.copies i).isSome = true → s.lock = some i

variable {h : History ι} {s₀ : State} {s s' : Shared ι} {i : ι} {e : Event ι}

theorem explains_idle (s₀ : State) : Explains ({} : History ι) s₀ { committed := s₀ } :=
  ⟨rfl, fun _ => rfl, fun _ h => by cases h⟩

/-- Whoever has a transaction is the only one. -/
theorem Explains.others (hs : h.Explains s₀ s) (hi : (s.copies i).isSome = true) {j : ι}
    (hj : j ≠ i) : s.copies j = none := by
  by_contra hcopy
  have hlock := (hs.holder j (Option.isSome_iff_ne_none.2 hcopy)).symm.trans (hs.holder i hi)
  exact hj (Option.some.inj hlock)

/-- The store is locked while there is a transaction. -/
theorem Explains.view_eq_store (hs : h.Explains s₀ s) (hi : (s.copies i).isSome = true) :
    s.view i = s.store := by
  rw [Shared.view, Shared.store, hs.holder i hi]
  rfl

theorem Explains.copies_of_free (hs : h.Explains s₀ s) (hfree : s.store.isLocked = false) (j : ι) :
    s.copies j = none := by
  by_contra hcopy
  have hj := Option.isSome_iff_ne_none.2 hcopy
  rw [← hs.view_eq_store hj, isLocked, Shared.view, hj] at hfree
  cases hfree

theorem Explains.pending_eq_none (hs : h.Explains s₀ s) (hi : s.copies i = none) :
    h.pending i = none := by
  have := hs.copies i
  rw [hi] at this
  exact Option.map_eq_none_iff.1 this.symm

/-- A transaction works on what it made of the contents. -/
theorem Explains.pending_eq_some (hs : h.Explains s₀ s) (hi : (s.copies i).isSome = true) :
    ∃ ops, h.pending i = some ops ∧ s.copies i = some (s.committed.replay ops) := by
  have hcopy := hs.copies i
  cases hops : h.pending i with
  | none =>
    rw [hops] at hcopy
    simp [hcopy] at hi
  | some ops =>
    rw [hops] at hcopy
    exact ⟨ops, rfl, hcopy⟩

variable [DecidableEq ι]

/-- **A step of the only transaction** is explained when what it leaves is. -/
theorem Explains.after (hs : h.Explains s₀ s) (hothers : ∀ j, j ≠ i → s.copies j = none)
    {x : Store} {deeds : List Deed} {ops : Option (List (Moment × Operation))}
    (hcommitted : x.committed = s₀.serial deeds)
    (hworking : x.working = ops.map x.committed.replay) :
    Explains ⟨deeds, Function.update h.pending i ops⟩ s₀ (s.after i x) where
  committed := hcommitted
  copies j := by
    by_cases hj : j = i
    · subst hj
      simp [Shared.after, hworking]
    · simp [Shared.after, hj, hothers j hj, hs.pending_eq_none (hothers j hj)]
  holder j hcopy := by
    by_cases hj : j = i
    · subst hj
      obtain ⟨w, hw⟩ := Option.isSome_iff_exists.1 hcopy
      have hw' : x.working = some w := by simpa [Shared.after] using hw
      simp [Shared.after, hw']
    · simp [Shared.after, hj, hothers j hj] at hcopy

/-- **A step that goes on with a transaction**, and leaves the contents alone. -/
theorem Explains.performed (hs : h.Explains s₀ s) (hi : (s.copies i).isSome = true)
    {τ : Type} (pace : Pace τ) (t : τ) (now : Moment) (op : Operation) :
    (h.next (.performed i now op (performAt pace now op (s.view i, t)).1)).Explains s₀
      (s.after i (performAt pace now op (s.view i, t)).2.1) := by
  obtain ⟨ops, hops, hcopy⟩ := hs.pending_eq_some hi
  have hview : s.view i = { s.store with working := some (s.committed.replay ops) } := by
    rw [Shared.view, hcopy]
  rcases performAt_cases pace now (s.view i, t) op with ⟨a, w, -, hok, hx⟩ | ⟨e, herr, hx⟩
  · obtain ⟨-, hdirect⟩ := performAt_direct hok hview
    rw [hok]
    refine hs.after (fun j hj => hs.others hi hj) ?_ ?_
    · rw [hdirect]
      exact hs.committed
    · rw [hdirect, hops]
      simp [State.replay_append, Shared.store]
  · rw [herr, hx]
    have hkept : h.next (.performed i now op (.error e)) =
        ⟨h.deeds, Function.update h.pending i (h.pending i)⟩ := by
      rw [Function.update_eq_self]
      rfl
    rw [hkept]
    exact hs.after (fun j hj => hs.others hi hj) hs.committed (hs.copies i)

/-- **The end of a transaction** that does not commit. -/
theorem Explains.givenUp (hs : h.Explains s₀ s) (hi : (s.copies i).isSome = true) :
    Explains ⟨h.deeds, Function.update h.pending i none⟩ s₀
      (s.after i (s.view i).rollback) :=
  hs.after (fun _ hj => hs.others hi hj) hs.committed rfl

/-- **A commit** carries out the whole transaction, or nothing. -/
theorem Explains.ended (hs : h.Explains s₀ s) (hi : (s.copies i).isSome = true)
    {τ : Type} (pace : Pace τ) (t : τ) :
    (h.next (.committed i (commitAt pace (s.view i, t)).1)).Explains s₀
      (s.after i (commitAt pace (s.view i, t)).2.1) := by
  rcases commitAt_cases pace (s.view i, t) with ⟨hok, hguard, hx⟩ | ⟨e, herr, hx⟩
  · obtain ⟨ops, hops, hcopy⟩ := hs.pending_eq_some hi
    rw [hok, hx, commit, hguard]
    refine hs.after (fun j hj => hs.others hi hj) ?_ rfl
    simp [Shared.view, hcopy, hops, State.serial_append, State.carryOut, hs.committed]
  · rw [herr, hx]
    exact hs.givenUp hi

/-- **Every step keeps the history an explanation.** -/
theorem Explains.step (hs : h.Explains s₀ s) (hstep : s.Step e s') :
    (h.next e).Explains s₀ s' := by
  cases hstep with
  | begun i pace t hbegin =>
    have hfree : s.store.isLocked = false :=
      isLocked_of_begin (Prod.ext_iff.2 ⟨hbegin, rfl⟩)
    exact hs.after (fun j _ => hs.copies_of_free hfree j) hs.committed rfl
  | refused i pace t e hbegin => exact hs
  | performed i pace t now op hi => exact hs.performed hi pace t now op
  | committed i pace t hi => exact hs.ended hi pace t
  | dropped i hi => exact hs.givenUp hi
  | asked pace t now q => exact hs
  | looked l hfree => exact hs
  | seeded row hfree =>
    refine ⟨?_, fun i => ?_, hs.holder⟩
    · rw [next, State.serial_append, ← hs.committed]
      rfl
    · have hi := hs.copies_of_free hfree i
      simp [next, hi, hs.pending_eq_none hi]
  | adjusted failing latency => exact ⟨hs.committed, hs.copies, hs.holder⟩

theorem Explains.run {es : List (Event ι)} {t : Shared ι} (hs : h.Explains s₀ s)
    (hrun : Shared.Run s es t) : (es.foldl next h).Explains s₀ t := by
  induction hrun generalizing h with
  | nil s => exact hs
  | cons hstep _ ih => exact ih (hs.step hstep)

end History

namespace Shared

variable {ι : Type} {s₀ : State} {s s' t : Shared ι} {i j : ι}

/-! ## What clients can rely on -/

open History (Explains ofEvents)

/-- What is looked at directly is seen in the contents. -/
theorem seen_store (l : Look) (s : Shared ι) :
    l.seen s.store = l.seen { committed := s.committed } := by
  cases l <;> rfl

variable [DecidableEq ι] {h : History ι} {e : Event ι} {es pre post : List (Event ι)}

/-- While a transaction is open, nothing but its commit changes the contents. -/
theorem committed_of_step (hs : h.Explains s₀ s) (hi : (s.copies i).isSome = true)
    (hstep : s.Step e s') : s'.committed = s.committed ∨ e = .committed i (.ok ()) := by
  cases hstep with
  | begun j pace t hbegin => exact .inl rfl
  | refused j pace t e hbegin => exact .inl rfl
  | performed j pace t now op hj =>
    rcases performAt_cases pace now (s.view j, t) op with ⟨a, w, -, -, hx⟩ | ⟨e, -, hx⟩
    · exact .inl (congrArg Store.committed hx)
    · exact .inl (congrArg Store.committed hx)
  | committed j pace t hj =>
    rcases commitAt_cases pace (s.view j, t) with ⟨hok, -, -⟩ | ⟨e, -, hx⟩
    · have hij : j = i := by
        by_contra hne
        rw [hs.others hi hne] at hj
        cases hj
      exact .inr (by rw [hok, hij])
    · exact .inl (congrArg Store.committed hx)
  | dropped j hj => exact .inl rfl
  | asked pace t now q => exact .inl rfl
  | looked l hfree => exact .inl rfl
  | seeded row hfree =>
    rw [hs.copies_of_free hfree i] at hi
    cases hi
  | adjusted failing latency => exact .inl rfl

/-- An answer is drawn from the contents, unless the question fails. -/
theorem answer_of_asked {now : Moment} {q : Query} {r : Except Fault q.Answer}
    (hstep : s.Step (.asked now q r) s') :
    r = s.committed.answer now q ∨ ∃ f : Failure, r = .error f.fault := by
  cases hstep with
  | asked pace t =>
    rw [askAt_eq_disturbed, Plan.disturbed]
    cases (disturbance pace now q (s.store, t)).1 with
    | none => exact .inl rfl
    | some f => exact .inr ⟨f, rfl⟩

/-- An operation is applied to what the transaction made of the contents. -/
theorem apply_of_performed (hs : h.Explains s₀ s) {now : Moment} {op : Operation} {a : op.Answer}
    (hstep : s.Step (.performed i now op (.ok a)) s') :
    ∃ ops w, h.pending i = some ops ∧ op.apply now (s.committed.replay ops) = .ok (a, w) := by
  generalize hr : (Except.ok a : Except Fault op.Answer) = r at hstep
  cases hstep with
  | performed _ pace t _ _ hi =>
    obtain ⟨ops, hops, hcopy⟩ := hs.pending_eq_some hi
    have hview : s.view i = { s.store with working := some (s.committed.replay ops) } := by
      rw [Shared.view, hcopy]
    have hdirect := (performAt_direct hr.symm hview).1
    rw [← hr, Change.direct] at hdirect
    split at hdirect
    next b w happly =>
      cases hdirect
      exact ⟨ops, w, hops, happly⟩
    · cases hdirect

/-- A transaction that commits was open. -/
theorem pending_of_committed (hs : h.Explains s₀ s) {r : Except Fault Unit}
    (hstep : s.Step (.committed i r) s') : ∃ ops, h.pending i = some ops := by
  cases hstep with
  | committed _ pace t hi =>
    obtain ⟨ops, hops, -⟩ := hs.pending_eq_some hi
    exact ⟨ops, hops⟩

theorem explains_of_run (hrun : Run { committed := s₀ } es s) :
    (ofEvents es).Explains s₀ s := (History.explains_idle s₀).run hrun

/-- Every event of a run is a step from a store that the events before it explain. -/
theorem step_of_run (hrun : Run { committed := s₀ } (pre ++ e :: post) s) :
    ∃ mid mid', (ofEvents pre).Explains s₀ mid ∧ mid.Step e mid' := by
  obtain ⟨mid, hpre, hpost⟩ := hrun.split
  cases hpost with
  | cons hstep _ => exact ⟨mid, _, explains_of_run hpre, hstep⟩

/-! ### Reachable stores -/

/-- What a step leaves is what everybody finds. -/
theorem store_after {x : Store} (hfailing : x.failing = s.failing)
    (hlatency : x.latency = s.latency) : (s.after i x).store = x := by
  obtain ⟨committed, working, failing, latency⟩ := x
  cases hfailing
  cases hlatency
  cases working with
  | none => rfl
  | some w => simp [after, store]

theorem reachable_of_step (hs : h.Explains s₀ s) (hreach : Reachable s.store)
    (hstep : s.Step e s') : Reachable s'.store := by
  cases hstep with
  | begun i pace t hbegin =>
    have hfree : s.store.isLocked = false := isLocked_of_begin (Prod.ext_iff.2 ⟨hbegin, rfl⟩)
    rw [store_after rfl rfl]
    exact hreach.begun (by simp [begin?, hfree]; rfl)
  | refused i pace t e hbegin => exact hreach
  | performed i pace t now op hi =>
    have hview : Reachable (s.view i) := by rwa [hs.view_eq_store hi]
    have hperformed := (hview.performAt (x := (s.view i, t)) pace now op hi).1
    rcases performAt_cases pace now (s.view i, t) op with ⟨a, w, -, -, hx⟩ | ⟨e, -, hx⟩
    · rw [hx] at hperformed ⊢
      rwa [store_after rfl rfl]
    · rw [hx] at hperformed ⊢
      rwa [store_after rfl rfl]
  | committed i pace t hi =>
    have hview : Reachable (s.view i) := by rwa [hs.view_eq_store hi]
    rcases commitAt_cases pace (s.view i, t) with ⟨-, hguard, hx⟩ | ⟨e, -, hx⟩
    · rw [hx, store_after]
      · exact hview.committed hi
      · rw [commit, hguard]
        rfl
      · rw [commit, hguard]
        rfl
    · rw [hx, store_after rfl rfl]
      exact hview.rolledBack
  | dropped i hi =>
    have hview : Reachable (s.view i) := by rwa [hs.view_eq_store hi]
    rw [store_after rfl rfl]
    exact hview.rolledBack
  | asked pace t now q => exact hreach
  | looked l hfree => exact hreach
  | seeded row hfree => exact hreach.seeded row hfree
  | adjusted failing latency => exact (hreach.armed failing).delayed latency

theorem reachable_of_run (hs : h.Explains s₀ s) (hreach : Reachable s.store)
    (hrun : Run s es s') : Reachable s'.store := by
  induction hrun generalizing h with
  | nil s => exact hreach
  | cons hstep _ ih => exact ih (hs.step hstep) (reachable_of_step hs hreach hstep)

/-- **Whatever clients do with a fresh store leads to a reachable one.** -/
theorem reachable_of_fresh (hrun : Run { committed := .seeded } es s) : Reachable s.store :=
  reachable_of_run (History.explains_idle .seeded) .fresh hrun

/-! ### Transactions one after the other -/

/-- **What the clients of a store can rely on**: after the events of a run, nobody could tell them
from whole transactions one after the other. -/
structure Serializable (s₀ : State) (es : List (Event ι)) (s : Shared ι) : Prop where
  exclusive : ∀ i j, (s.copies i).isSome = true → (s.copies j).isSome = true → i = j
  undisturbed : ∀ i e s', (s.copies i).isSome = true → s.Step e s' →
    s'.committed = s.committed ∨ e = .committed i (.ok ())
  serial : s.committed = s₀.serial (ofEvents es).deeds
  growing : ∀ pre post, es = pre ++ post → (ofEvents pre).deeds <+: (ofEvents es).deeds
  read : ∀ pre now q r post, es = pre ++ .asked now q r :: post →
    r = (s₀.serial (ofEvents pre).deeds).answer now q ∨ ∃ f : Failure, r = .error f.fault
  look : ∀ pre l r post, es = pre ++ .looked l r :: post →
    r = l.seen { committed := s₀.serial (ofEvents pre).deeds }
  answer : ∀ pre i now op a post, es = pre ++ .performed i now op (.ok a) :: post →
    ∃ ops w, (ofEvents pre).pending i = some ops ∧
      op.apply now ((s₀.serial (ofEvents pre).deeds).replay ops) = .ok (a, w)
  kept : ∀ pre i post, es = pre ++ .committed i (.ok ()) :: post →
    ∃ ops, (ofEvents pre).pending i = some ops ∧
      (ofEvents pre).deeds ++ [.transaction ops] <+: (ofEvents es).deeds
  seeded : ∀ pre row post, es = pre ++ .seeded row :: post →
    (ofEvents pre).deeds ++ [.seed row] <+: (ofEvents es).deeds

/-- **Transactions are serializable**, whatever any number of clients do in any order, and however
their steps end. -/
theorem serializable (hrun : Run { committed := s₀ } es s) : Serializable s₀ es s := by
  have hs := explains_of_run hrun
  exact
    { exclusive := fun i j hi hj => Option.some.inj ((hs.holder i hi).symm.trans (hs.holder j hj))
      undisturbed := fun i e s' hi hstep => committed_of_step hs hi hstep
      serial := hs.committed
      growing := by
        rintro pre post rfl
        exact History.deeds_prefix_append pre post
      read := by
        rintro pre now q r post rfl
        obtain ⟨mid, mid', hmid, hstep⟩ := step_of_run hrun
        rw [← hmid.committed]
        exact answer_of_asked hstep
      look := by
        rintro pre l r post rfl
        obtain ⟨mid, mid', hmid, hstep⟩ := step_of_run hrun
        rw [← hmid.committed]
        cases hstep with
        | looked _ hfree => exact seen_store l mid
      answer := by
        rintro pre i now op a post rfl
        obtain ⟨mid, mid', hmid, hstep⟩ := step_of_run hrun
        rw [← hmid.committed]
        exact apply_of_performed hmid hstep
      kept := by
        rintro pre i post rfl
        obtain ⟨mid, mid', hmid, hstep⟩ := step_of_run hrun
        obtain ⟨ops, hops⟩ := pending_of_committed hmid hstep
        have hkept := History.deeds_next_prefix pre (.committed i (.ok ())) post
        rw [History.next, hops] at hkept
        exact ⟨ops, hops, hkept⟩
      seeded := by
        rintro pre row post rfl
        exact History.deeds_next_prefix pre (.seeded row) post }

/-! ## One run -/

/-- Two clients: one is turned away while the other creates an organization, and then drops a
project. -/
def sampleEvents : List (Event Bool) :=
  [.begun true, .performed true ⟨1, 0⟩ (.insertOrganization ⟨"o1", "O", ⟨1, 0⟩, ⟨1, 0⟩⟩) (.ok ()),
    .refused false (.timeout "begin"),
    .asked ⟨2, 0⟩ (.userKnown "ann") (.error (.timeout "user_exists")),
    .committed true (.ok ()), .asked ⟨3, 0⟩ (.parent (.organization "o1")) (.ok none),
    .begun false,
    .performed false ⟨4, 0⟩ (.insertProject ⟨"p1", "o1", "P", none, ⟨4, 0⟩, ⟨4, 0⟩⟩) (.ok ()),
    .dropped false, .looked .projects (0 : Nat), .begun true,
    .performed true ⟨5, 0⟩ (.insertUser (.known "ann" none ⟨5, 0⟩)) (.ok true),
    .adjusted [.commit] 0, .committed true (.error FailPoint.commit.fault)]

theorem serializable_sample : ∃ s : Shared Bool, Run { committed := .seeded } sampleEvents s ∧
    Serializable .seeded sampleEvents s := by
  obtain ⟨s, hrun⟩ : ∃ s : Shared Bool, Run { committed := .seeded } sampleEvents s :=
    ⟨_, .cons (.begun true ({} : Limits).pace 0 rfl) <|
      .cons (.performed true ({} : Limits).pace 0 _ _ rfl) <|
      .cons (.refused false ({ deadline := some 9 } : Limits).pace 0 _ rfl) <|
      .cons (.asked ({ deadline := some 9 } : Limits).pace 0 _ _) <|
      .cons (.committed true ({} : Limits).pace 0 rfl) <|
      .cons (.asked ({} : Limits).pace 0 _ _) <|
      .cons (.begun false ({} : Limits).pace 0 rfl) <|
      .cons (.performed false ({} : Limits).pace 0 _ _ rfl) <|
      .cons (.dropped false rfl) <| .cons (.looked .projects rfl) <|
      .cons (.begun true ({} : Limits).pace 0 rfl) <|
      .cons (.performed true ({} : Limits).pace 0 _ _ rfl) <|
      .cons (.adjusted [.commit] 0) <|
      .cons (.committed true ({} : Limits).pace 0 rfl) <| .nil _⟩
  exact ⟨s, hrun, serializable hrun⟩

end Shared

end TenantGuard.Store
