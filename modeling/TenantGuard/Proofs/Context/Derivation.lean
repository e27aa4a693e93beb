import Mathlib.Data.List.Infix
import Mathlib.Logic.Relation
import TenantGuard.Context

/-!
# Contexts derived from one another

Contexts are made, derived, given deadlines and cancelled in any order, and time passes in between.

* a `Family` is what there is after a `History` of calls; contexts are numbered as they come;
* `History.Sets`, `History.IsParent` and `History.Cancels` read off the calls which deadlines were
  set on the path to a context, what it was derived from and what was cancelled;
* `context_cases`: what one call can do to a context;
* `deadline_isMinimum` and `mem_lineage_iff`: the deadline of a context is the least that was set,
  its lineage is its ancestry;
* `derived_contexts_only_tighten`: deadlines and cancellation of all contexts of a family.
-/

namespace TenantGuard.Context

open Relation (ReflTransGen)

/-! ## Histories -/

/-- **What can be done with contexts**, which are named by number. -/
inductive Call where
  | root (timeout : Option Nat)
  | child (parent : Nat) (timeout : Option Nat)
  | bringForward (context : Nat) (deadline : Instant)
  | cancel (context : Nat)
  | wait (duration : Nat)
  deriving DecidableEq, Repr

/-- Whether a call makes a context, given how many there are. -/
def Call.makes (n : Nat) : Call → Bool
  | .root _ => true
  | .child p _ => p < n
  | _ => false

/-- How long a call takes. -/
def Call.duration : Call → Nat
  | .wait d => d
  | _ => 0

/-- **The calls so far**, the oldest first. -/
abbrev History := List Call

namespace History

/-- How many contexts there are. -/
def size (calls : History) : Nat := calls.foldl (fun n c => if c.makes n then n + 1 else n) 0

/-- What the clock shows. -/
def clock (calls : History) : Instant := calls.foldl (fun t c => t + c.duration) 0

/-- **A context is derived from another one.** -/
def IsParent (calls : History) (i p : Nat) : Prop :=
  ∃ (before : History) (timeout : Option Nat), before ++ [.child p timeout] <+: calls ∧
    p < before.size ∧ i = before.size

/-- **A context is cancelled by a call.** -/
def Cancels (calls : History) (i : Nat) : Prop :=
  ∃ before : History, before ++ [.cancel i] <+: calls ∧ i < before.size

/-- **A deadline is set on the path to a context**: on itself, when it is made or later, or on the
path to its parent before it was derived. -/
inductive Sets : History → Nat → Instant → Prop where
  | root {calls before : History} {d : Nat} (h : before ++ [.root (some d)] <+: calls) :
      Sets calls before.size (before.clock + d)
  | child {calls before : History} {p d : Nat} (h : before ++ [.child p (some d)] <+: calls)
      (hp : p < before.size) : Sets calls before.size (before.clock + d)
  | bringForward {calls before : History} {i : Nat} {t : Instant}
      (h : before ++ [.bringForward i t] <+: calls) (hi : i < before.size) : Sets calls i t
  | inherited {calls before : History} {p : Nat} {timeout : Option Nat} {t : Instant}
      (h : before ++ [.child p timeout] <+: calls) (hp : p < before.size)
      (hset : Sets before p t) : Sets calls before.size t

end History

/-! ## Families -/

/-- **All contexts**, the tokens that were cancelled, and the clock. -/
structure Family where
  contexts : List Context := []
  cancelled : List Nat := []
  clock : Instant := 0

namespace Family

/-- The context that a call makes, with a token of its own. -/
def made (f : Family) : Call → Option Context
  | .root none => some (root f.contexts.length)
  | .root (some d) => some (withTimeout f.contexts.length f.clock d)
  | .child p timeout => f.contexts[p]?.map (·.child f.contexts.length f.clock timeout)
  | _ => none

/-- The contexts that there are, with the deadline that a call sets. -/
def altered (f : Family) : Call → List Context
  | .bringForward i t => f.contexts.modify i (·.deadlineAt t)
  | _ => f.contexts

/-- The token that a call cancels: that of the context itself. -/
def struck (f : Family) : Call → Option Nat
  | .cancel i => f.contexts[i]?.bind (·.lineage.head?)
  | _ => none

/-- **One call.**  A call that names a context that is not there does nothing. -/
def step (f : Family) (call : Call) : Family where
  contexts := f.altered call ++ (f.made call).toList
  cancelled := (f.struck call).toList ++ f.cancelled
  clock := f.clock + call.duration

end Family

/-- **What there is after some calls.** -/
def History.run (calls : History) : Family := calls.foldl Family.step {}

namespace History

variable {calls before : History} {call : Call} {i p : Nat} {t : Instant} {c : Context}

theorem run_concat (calls : History) (call : Call) :
    run (calls ++ [call]) = (run calls).step call := by
  rw [run, List.foldl_append]
  rfl

theorem size_concat (calls : History) (call : Call) :
    size (calls ++ [call]) = if call.makes calls.size then calls.size + 1 else calls.size := by
  rw [size, List.foldl_append]
  rfl

theorem clock_run (calls : History) : calls.run.clock = calls.clock := by
  induction calls using List.reverseRecOn with
  | nil => rfl
  | append_singleton calls call ih =>
    rw [run_concat, Family.step, ih, clock, clock, List.foldl_append]
    rfl

theorem length_altered (f : Family) (call : Call) :
    (f.altered call).length = f.contexts.length := by
  cases call with
  | bringForward i t => exact List.length_modify _ _ _
  | _ => rfl

theorem isSome_made (f : Family) (call : Call) :
    (f.made call).isSome = call.makes f.contexts.length := by
  cases call with
  | root timeout => cases timeout <;> rfl
  | child p timeout =>
    rw [Family.made, Option.isSome_map, Bool.eq_iff_iff, Option.isSome_iff_ne_none, ne_eq,
      List.getElem?_eq_none_iff, Nat.not_le]
    exact decide_eq_true_iff.symm
  | _ => rfl

theorem length_run (calls : History) : calls.run.contexts.length = calls.size := by
  induction calls using List.reverseRecOn with
  | nil => rfl
  | append_singleton calls call ih =>
    have hmade := isSome_made (run calls) call
    rw [ih] at hmade
    rw [run_concat, size_concat, Family.step, List.length_append, length_altered, ih, ← hmade]
    cases (run calls).made call <;> rfl

/-- **What one call can do to a context**: make it, bring its deadline forward, or leave it. -/
theorem context_cases (h : (run (calls ++ [call])).contexts[i]? = some c) :
    (i = calls.size ∧ calls.run.made call = some c) ∨
      (i < calls.size ∧ ∃ c', calls.run.contexts[i]? = some c' ∧
        ((∃ t, call = .bringForward i t ∧ c = c'.deadlineAt t) ∨
          (∀ t, call ≠ .bringForward i t) ∧ c = c')) := by
  rw [run_concat, Family.step, List.getElem?_append, length_altered, length_run] at h
  split at h
  next hlt =>
    refine .inr ⟨hlt, ?_⟩
    cases call with
    | bringForward j t =>
      rw [Family.altered, List.getElem?_modify] at h
      obtain ⟨c', hc', rfl⟩ := Option.map_eq_some_iff.1 h
      refine ⟨c', hc', ?_⟩
      by_cases hj : j = i
      · subst hj
        exact .inl ⟨t, rfl, if_pos rfl⟩
      · exact .inr ⟨fun t' ht' => hj (Call.bringForward.inj ht').1, if_neg hj⟩
    | _ => exact ⟨c, h, .inr ⟨nofun, rfl⟩⟩
  next hge =>
    cases hmade : (run calls).made call with
    | none => simp [hmade] at h
    | some c' =>
      rw [hmade, Option.toList_some, List.getElem?_singleton] at h
      split at h
      next hi =>
        cases h
        exact .inl ⟨by omega, rfl⟩
      · cases h

/-! ## What calls say -/

theorem prefix_concat {call' : Call} : before ++ [call'] <+: calls ++ [call] ↔
    before ++ [call'] <+: calls ∨ before = calls ∧ call' = call := by
  rw [List.prefix_concat_iff, or_comm]
  refine or_congr Iff.rfl ⟨fun h => ?_, fun h => by rw [h.1, h.2]⟩
  obtain ⟨hbefore, hcall⟩ := List.append_inj' h rfl
  exact ⟨hbefore, (List.cons.inj hcall).1⟩

theorem size_le_append (calls : History) (after : List Call) :
    calls.size ≤ size (calls ++ after) := by
  induction after using List.reverseRecOn with
  | nil => rw [List.append_nil]
  | append_singleton after call ih =>
    rw [← List.append_assoc, size_concat]
    split <;> omega

/-- A context that a call made is there afterwards. -/
theorem size_lt_of_call (h : before ++ [call] <+: calls) (hmakes : call.makes before.size = true) :
    before.size < calls.size := by
  obtain ⟨after, rfl⟩ := h
  have hle := size_le_append (before ++ [call]) after
  rw [size_concat, if_pos hmakes] at hle
  omega

theorem size_le_of_call (h : before ++ [call] <+: calls) : before.size ≤ calls.size := by
  obtain ⟨after, rfl⟩ := h
  rw [List.append_assoc]
  exact size_le_append _ _

/-- A context is derived from an earlier one. -/
theorem IsParent.lt (h : IsParent calls i p) : p < i ∧ i < calls.size := by
  obtain ⟨before, timeout, hcall, hp, rfl⟩ := h
  exact ⟨hp, size_lt_of_call hcall (decide_eq_true hp)⟩

theorem isParent_concat : IsParent (calls ++ [call]) i p ↔
    IsParent calls i p ∨ ∃ timeout, call = .child p timeout ∧ p < calls.size ∧ i = calls.size := by
  constructor
  · rintro ⟨before, timeout, hcall, hp, rfl⟩
    rcases prefix_concat.1 hcall with hcall | ⟨rfl, rfl⟩
    · exact .inl ⟨before, timeout, hcall, hp, rfl⟩
    · exact .inr ⟨timeout, rfl, hp, rfl⟩
  · rintro (⟨before, timeout, hcall, hp, rfl⟩ | ⟨timeout, rfl, hp, rfl⟩)
    · exact ⟨before, timeout, prefix_concat.2 (.inl hcall), hp, rfl⟩
    · exact ⟨calls, timeout, List.prefix_refl _, hp, rfl⟩

theorem cancels_concat : Cancels (calls ++ [call]) i ↔
    Cancels calls i ∨ call = .cancel i ∧ i < calls.size := by
  constructor
  · rintro ⟨before, hcall, hi⟩
    rcases prefix_concat.1 hcall with hcall | ⟨rfl, rfl⟩
    · exact .inl ⟨before, hcall, hi⟩
    · exact .inr ⟨rfl, hi⟩
  · rintro (⟨before, hcall, hi⟩ | ⟨rfl, hi⟩)
    · exact ⟨before, prefix_concat.2 (.inl hcall), hi⟩
    · exact ⟨calls, List.prefix_refl _, hi⟩

/-- A deadline is set on a context that is there. -/
theorem Sets.lt (h : Sets calls i t) : i < calls.size := by
  cases h with
  | root h => exact size_lt_of_call h rfl
  | child h hp => exact size_lt_of_call h (decide_eq_true hp)
  | bringForward h hi => exact Nat.lt_of_lt_of_le hi (size_le_of_call h)
  | inherited h hp hset => exact size_lt_of_call h (decide_eq_true hp)

/-- **The deadlines that a call sets** behind the calls so far. -/
inductive SetsNow (calls : History) : Call → Nat → Instant → Prop where
  | root {d : Nat} : SetsNow calls (.root (some d)) calls.size (calls.clock + d)
  | child {p d : Nat} (hp : p < calls.size) :
      SetsNow calls (.child p (some d)) calls.size (calls.clock + d)
  | bringForward {i : Nat} {t : Instant} (hi : i < calls.size) :
      SetsNow calls (.bringForward i t) i t
  | inherited {p : Nat} {timeout : Option Nat} {t : Instant} (hp : p < calls.size)
      (hset : Sets calls p t) : SetsNow calls (.child p timeout) calls.size t

theorem sets_concat : Sets (calls ++ [call]) i t ↔ Sets calls i t ∨ SetsNow calls call i t := by
  constructor
  · intro h
    cases h with
    | root h =>
      rcases prefix_concat.1 h with h | ⟨rfl, rfl⟩
      · exact .inl (.root h)
      · exact .inr .root
    | child h hp =>
      rcases prefix_concat.1 h with h | ⟨rfl, rfl⟩
      · exact .inl (.child h hp)
      · exact .inr (.child hp)
    | bringForward h hi =>
      rcases prefix_concat.1 h with h | ⟨rfl, rfl⟩
      · exact .inl (.bringForward h hi)
      · exact .inr (.bringForward hi)
    | inherited h hp hset =>
      rcases prefix_concat.1 h with h | ⟨rfl, rfl⟩
      · exact .inl (.inherited h hp hset)
      · exact .inr (.inherited hp hset)
  · rintro (h | h)
    · cases h with
      | root h => exact .root (prefix_concat.2 (.inl h))
      | child h hp => exact .child (prefix_concat.2 (.inl h)) hp
      | bringForward h hi => exact .bringForward (prefix_concat.2 (.inl h)) hi
      | inherited h hp hset => exact .inherited (prefix_concat.2 (.inl h)) hp hset
    · cases h with
      | root => exact .root (List.prefix_refl _)
      | child hp => exact .child (List.prefix_refl _) hp
      | bringForward hi => exact .bringForward (List.prefix_refl _) hi
      | inherited hp hset => exact .inherited (List.prefix_refl _) hp hset

/-! ## Deadlines -/

/-- **The least instant of those given**; `none` if there are none. -/
def IsMinimum (S : Instant → Prop) : Option Instant → Prop
  | none => ∀ t, ¬ S t
  | some t => S t ∧ ∀ u, S u → t ≤ u

theorem IsMinimum.congr {S S' : Instant → Prop} {m : Option Instant} (h : IsMinimum S m)
    (hiff : ∀ t, S' t ↔ S t) : IsMinimum S' m := by
  cases m with
  | none => exact fun t ht => h t ((hiff t).1 ht)
  | some t => exact ⟨(hiff t).2 h.1, fun u hu => h.2 u ((hiff u).1 hu)⟩

/-- Bringing a deadline forward adds one to those it is the least of. -/
theorem IsMinimum.deadlineAt {S : Instant → Prop} (h : IsMinimum S c.deadline) (t : Instant) :
    IsMinimum (fun u => S u ∨ u = t) (c.deadlineAt t).deadline := by
  obtain ⟨lineage, deadline⟩ := c
  cases deadline with
  | none =>
    refine ⟨.inr rfl, fun u hu => ?_⟩
    exact Nat.le_of_eq (hu.resolve_left (h u)).symm
  | some d =>
    change IsMinimum _ (some (min d t))
    refine ⟨?_, ?_⟩
    · rcases Nat.le_total d t with hle | hle
      · rw [Nat.min_eq_left hle]
        exact .inl h.1
      · exact .inr (Nat.min_eq_right hle)
    · rintro u (hu | rfl)
      · exact Nat.le_trans (Nat.min_le_left d t) (h.2 u hu)
      · exact Nat.min_le_right d u

/-- A call sets no deadline on a context that is left as it is. -/
theorem not_setsNow (hi : i < calls.size) (hcall : ∀ t, call ≠ .bringForward i t) :
    ¬ SetsNow calls call i t := by
  rintro h
  cases h with
  | root => exact Nat.lt_irrefl _ hi
  | child hp => exact Nat.lt_irrefl _ hi
  | bringForward h => exact hcall _ rfl
  | inherited hp hset => exact Nat.lt_irrefl _ hi

/-- **A context that is made** has the least deadline of those set on it now. -/
theorem made_isMinimum (hmade : (run calls).made call = some c)
    (hcontexts : ∀ p cp, (run calls).contexts[p]? = some cp → IsMinimum (Sets calls p) cp.deadline) :
    IsMinimum (SetsNow calls call (size calls)) c.deadline := by
  cases call with
  | root timeout =>
    cases timeout with
    | none =>
      cases hmade
      exact fun t ht => nomatch ht
    | some d =>
      cases hmade
      refine ⟨clock_run calls ▸ .root, fun u hu => ?_⟩
      cases hu
      exact Nat.le_of_eq (congrArg (· + d) (clock_run calls))
  | child p timeout =>
    obtain ⟨cp, hcp, rfl⟩ := Option.map_eq_some_iff.1 hmade
    have hp : p < size calls := length_run calls ▸ (List.getElem?_eq_some_iff.1 hcp).1
    cases timeout with
    | none =>
      refine (hcontexts p cp hcp).congr fun t => ⟨fun h => ?_, .inherited hp⟩
      cases h with
      | inherited _ hset => exact hset
    | some d =>
      have hmin : IsMinimum (Sets calls p)
          (⟨(run calls).contexts.length :: cp.lineage, cp.deadline⟩ : Context).deadline :=
        hcontexts p cp hcp
      refine (hmin.deadlineAt _).congr fun t => ⟨fun h => ?_, ?_⟩
      · cases h with
        | child => exact .inr (congrArg (· + d) (clock_run calls).symm)
        | inherited _ hset => exact .inl hset
      · rintro (hset | rfl)
        · exact .inherited hp hset
        · exact clock_run calls ▸ .child hp
  | _ => cases hmade

/-- **The deadline of a context is the least that was set** on the path to it. -/
theorem deadline_isMinimum (calls : History) : ∀ {i : Nat} {c : Context},
    (run calls).contexts[i]? = some c → IsMinimum (Sets calls i) c.deadline := by
  induction calls using List.reverseRecOn with
  | nil => exact nofun
  | append_singleton calls call ih =>
    intro i c hc
    rcases context_cases hc with ⟨rfl, hmade⟩ | ⟨hi, c', hc', ⟨t, rfl, rfl⟩ | ⟨hcall, rfl⟩⟩
    · -- on a new context nothing was set before
      refine (made_isMinimum hmade fun _ _ => ih).congr fun t => sets_concat.trans ?_
      exact or_iff_right fun h => Nat.lt_irrefl _ h.lt
    · refine ((ih hc').deadlineAt t).congr fun u => sets_concat.trans (or_congr Iff.rfl ?_)
      exact ⟨fun h => by cases h; rfl, fun h => h ▸ .bringForward hi⟩
    · exact (ih hc').congr fun t => sets_concat.trans (or_iff_left (not_setsNow hi hcall))

/-! ## Cancellation -/

/-- **A context and all it was derived from**, one from the other. -/
abbrev Reaches (calls : History) : Nat → Nat → Prop := ReflTransGen (IsParent calls)

theorem reaches_iff {j : Nat} :
    Reaches calls i j ↔ j = i ∨ ∃ p, IsParent calls i p ∧ Reaches calls p j :=
  ReflTransGen.cases_head_iff.trans (or_congr eq_comm Iff.rfl)

/-- Later calls leave the ancestry of a context as it is. -/
theorem reaches_concat (hi : i < size calls) {j : Nat} :
    Reaches (calls ++ [call]) i j ↔ Reaches calls i j := by
  constructor
  · intro h
    induction h using ReflTransGen.head_induction_on with
    | refl => exact .refl
    | head hparent hrest ih =>
      rcases isParent_concat.1 hparent with hparent | ⟨timeout, rfl, hp, rfl⟩
      · exact .head hparent (ih (Nat.lt_trans hparent.lt.1 hi))
      · exact (Nat.lt_irrefl _ hi).elim
  · exact ReflTransGen.mono (fun _ _ hparent => isParent_concat.2 (.inl hparent)) i j

/-- What a new context is derived from. -/
theorem isParent_size : IsParent (calls ++ [call]) (size calls) p ↔
    ∃ timeout, call = .child p timeout ∧ p < size calls := by
  rw [isParent_concat, or_iff_right fun h => Nat.lt_irrefl _ h.lt.2]
  simp

/-- **A context that is made** has its own token and those of its parent. -/
theorem made_lineage (hmade : (run calls).made call = some c)
    (hcontexts : ∀ p cp, (run calls).contexts[p]? = some cp →
      ∀ j, j ∈ cp.lineage ↔ Reaches calls p j) :
    c.lineage.head? = some (size calls) ∧
      ∀ j, j ∈ c.lineage ↔ Reaches (calls ++ [call]) (size calls) j := by
  cases call with
  | root timeout =>
    have hlineage : c.lineage = [size calls] := by
      rw [← length_run]
      cases timeout <;> cases hmade <;> rfl
    refine ⟨by rw [hlineage]; rfl, fun j => ?_⟩
    rw [hlineage, List.mem_singleton, reaches_iff]
    simp [isParent_size]
  | child p timeout =>
    obtain ⟨cp, hcp, rfl⟩ := Option.map_eq_some_iff.1 hmade
    have hp : p < size calls := length_run calls ▸ (List.getElem?_eq_some_iff.1 hcp).1
    have hlineage : (cp.child (run calls).contexts.length (run calls).clock timeout).lineage =
        size calls :: cp.lineage := by
      rw [← length_run]
      cases timeout <;> rfl
    refine ⟨by rw [hlineage]; rfl, fun j => ?_⟩
    rw [hlineage, List.mem_cons, reaches_iff, hcontexts p cp hcp j]
    refine or_congr Iff.rfl ⟨fun h => ⟨p, ?_, (reaches_concat hp).2 h⟩, ?_⟩
    · exact isParent_size.2 ⟨timeout, rfl, hp⟩
    · rintro ⟨q, hq, hrest⟩
      obtain ⟨timeout', hcall, -⟩ := isParent_size.1 hq
      cases hcall
      exact (reaches_concat hp).1 hrest
  | _ => cases hmade

/-- **The lineage of a context is its ancestry**, with the context itself first. -/
theorem mem_lineage_iff (calls : History) : ∀ {i : Nat} {c : Context},
    (run calls).contexts[i]? = some c →
      c.lineage.head? = some i ∧ ∀ j, j ∈ c.lineage ↔ Reaches calls i j := by
  induction calls using List.reverseRecOn with
  | nil => exact nofun
  | append_singleton calls call ih =>
    intro i c hc
    rcases context_cases hc with ⟨rfl, hmade⟩ | ⟨hi, c', hc', ⟨t, rfl, rfl⟩ | ⟨-, rfl⟩⟩
    · exact made_lineage hmade fun _ _ h => (ih h).2
    · exact ⟨(ih hc').1, fun j => ((ih hc').2 j).trans (reaches_concat hi).symm⟩
    · exact ⟨(ih hc').1, fun j => ((ih hc').2 j).trans (reaches_concat hi).symm⟩

/-- A call to cancel cancels the token of the context itself. -/
theorem struck_eq_some {j : Nat} :
    (run calls).struck call = some j ↔ call = .cancel j ∧ j < size calls := by
  cases call with
  | cancel i =>
    have hhead : (run calls).struck (.cancel i) = if i < size calls then some i else none := by
      rw [Family.struck, ← length_run]
      split
      next hi =>
        rw [List.getElem?_eq_getElem hi]
        exact (mem_lineage_iff calls (List.getElem?_eq_getElem hi)).1
      next hi => rw [List.getElem?_eq_none (Nat.le_of_not_lt hi), Option.bind_none]
    rw [hhead, Option.ite_none_right_eq_some, Option.some.injEq, Call.cancel.injEq]
    constructor
    · rintro ⟨hi, rfl⟩
      exact ⟨rfl, hi⟩
    · rintro ⟨rfl, hi⟩
      exact ⟨hi, rfl⟩
  | _ => exact ⟨nofun, nofun⟩

/-- **The tokens that were cancelled** are those of the contexts that were. -/
theorem mem_cancelled_iff (calls : History) {j : Nat} :
    j ∈ (run calls).cancelled ↔ Cancels calls j := by
  induction calls using List.reverseRecOn with
  | nil =>
    refine ⟨nofun, ?_⟩
    rintro ⟨before, hcall, hj⟩
    cases before <;> cases List.prefix_nil.1 hcall
  | append_singleton calls call ih =>
    rw [run_concat, Family.step, List.mem_append, Option.mem_toList, struck_eq_some,
      ih, cancels_concat, or_comm]

/-- A context is cancelled if one of its ancestors was, or it was itself. -/
theorem isCancelled_iff (h : (run calls).contexts[i]? = some c) :
    c.isCancelled (run calls).cancelled = true ↔ ∃ j, Reaches calls i j ∧ Cancels calls j := by
  rw [isCancelled, List.any_eq_true]
  refine exists_congr fun j => and_congr ((mem_lineage_iff calls h).2 j) ?_
  rw [List.contains_iff_mem, mem_cancelled_iff]

/-- **A derived context has no later deadline** than its parent had when it was derived. -/
theorem child_deadline_le {timeout : Option Nat} {cp : Context}
    (hcall : before ++ [.child p timeout] <+: calls) (hp : (run before).contexts[p]? = some cp)
    (ht : cp.deadline = some t) :
    ∃ c u, (run calls).contexts[size before]? = some c ∧ c.deadline = some u ∧ u ≤ t := by
  have hlt : p < size before := length_run before ▸ (List.getElem?_eq_some_iff.1 hp).1
  have hmem : size before < (run calls).contexts.length :=
    length_run calls ▸ size_lt_of_call hcall (decide_eq_true hlt)
  have hparent : Sets before p t := by
    have hmin := deadline_isMinimum before hp
    rw [ht] at hmin
    exact hmin.1
  have hset : Sets calls (size before) t := .inherited hcall hlt hparent
  have hmin := deadline_isMinimum calls (List.getElem?_eq_getElem hmem)
  cases hu : (run calls).contexts[size before].deadline with
  | none =>
    rw [hu] at hmin
    exact (hmin t hset).elim
  | some u =>
    rw [hu] at hmin
    exact ⟨_, u, List.getElem?_eq_getElem hmem, hu, hmin.2 t hset⟩

/-- **Derived contexts only tighten.**  Contexts are made, derived, given deadlines and cancelled in
any order while time passes.  The deadline of each is the least that was set on the path to it, so
that it is no later than the parent's was when the context was derived; and a context is cancelled
exactly if it was itself or something that it was derived from, never because of what was derived
from it or next to it. -/
theorem derived_contexts_only_tighten (calls : History) :
    (run calls).contexts.length = size calls ∧
    (∀ i c, (run calls).contexts[i]? = some c →
      IsMinimum (Sets calls i) c.deadline ∧
      (c.isCancelled (run calls).cancelled = true ↔
        ∃ j, ReflTransGen (IsParent calls) i j ∧ Cancels calls j)) ∧
    ∀ (before : History) p timeout parent t, before ++ [.child p timeout] <+: calls →
      (run before).contexts[p]? = some parent → parent.deadline = some t →
      ∃ c u, (run calls).contexts[size before]? = some c ∧ c.deadline = some u ∧ u ≤ t :=
  ⟨length_run calls, fun _ _ hc => ⟨deadline_isMinimum calls hc, isCancelled_iff hc⟩,
    fun _ _ _ _ _ hcall hp ht => child_deadline_le hcall hp ht⟩

/-- A child asks for more time than its parent has, and is cancelled: the parent is not. -/
theorem derived_contexts_only_tighten_child :
    let before : History := [.root (some 50), .wait 20]
    let calls := before ++ [.child 0 (some 60000), .cancel 1]
    (run before).contexts[0]? = some ⟨[0], some 50⟩ ∧
    (run calls).contexts.map (fun c => (c.deadline, c.isCancelled (run calls).cancelled)) =
      [(some 50, false), (some 50, true)] ∧
    ∃ c u, (run calls).contexts[size before]? = some c ∧ c.deadline = some u ∧ u ≤ 50 := by
  intro before calls
  have hchild : before ++ [.child 0 (some 60000)] <+: calls := ⟨[.cancel 1], rfl⟩
  have hparent : (run before).contexts[0]? = some ⟨[0], some 50⟩ := rfl
  exact ⟨hparent, by decide,
    (derived_contexts_only_tighten calls).2.2 before 0 (some 60000) _ 50 hchild hparent rfl⟩

end History

end TenantGuard.Context
