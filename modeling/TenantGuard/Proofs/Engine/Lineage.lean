import Mathlib.Data.List.Chain
import TenantGuard.Engine
import TenantGuard.Proofs.Execution

/-!
# The climb from a scope

The engine climbs from a scope to its organization and asks a store for one parent after the other.
The store need not hold a tree: parents may be missing, cyclic or of the wrong level, lookups may
fail, and each may change what the next one finds.  The climb ends all the same, and what it hands
on is a chain up to an organization or a fault.

* a `Source` is such a store, `Source.steady` one that answers a question in the same way each time,
  and `Source.Climb` the way that the answers lead up from a scope;
* `Source.Lineage` is a climb that ends at an organization without a parent;
* `run_of_climb`: what is made of the answer at which a climb stops;
* `exists_climb`: every climb stops, after one lookup a level at most;
* `climb_reaches_root_or_fails`: what the climb comes to, in any store.
-/

namespace TenantGuard

open Plan (Oracle)
open Store (Query)

/-! ## The questions of a run -/

namespace Plan

variable {Q : Type} {A : Q → Type} {α β σ : Type}

/-- **The questions of a run**, in order. -/
def asked (answer : Oracle Q A σ) : Plan Q A α → σ → List Q
  | done _, _ => []
  | noting _ next, x => next.asked answer x
  | asking q next, x => q :: (next (answer q x).1).asked answer (answer q x).2

theorem asked_bind (answer : Oracle Q A σ) (p : Plan Q A α) (f : α → Plan Q A β) (x : σ) :
    (p.bind f).asked answer x =
      p.asked answer x ++ (f (p.run answer x).1).asked answer (p.run answer x).2.2 := by
  induction p generalizing x with
  | done a => rfl
  | noting e next ih => exact ih x
  | asking q next ih => exact congrArg (q :: ·) (ih _ _)

end Plan

namespace Engine

variable {σ : Type}

/-! ## Stores of any kind -/

/-- **A store that may do anything**, but that each question comes to an end. -/
structure Source (σ : Type) where
  /-- The work of a question, and the store behind it. -/
  work : (q : Query) → σ → Work q.Answer × σ
  ends : ∀ q x, (work q x).1.duration ≠ none

namespace Source

/-- **A store that answers a question in the same way each time**, and takes the same time
for each. -/
def steady (answer : (q : Query) → Except Fault q.Answer) (duration : Nat) : Source σ where
  work q x := (⟨some duration, answer q⟩, x)
  ends _ _ := Option.some_ne_none duration

/-- Puts a question under limits. -/
def ask (S : Source σ) (l : Limits) : Oracle Query Query.Answer (σ × Instant) := fun q x =>
  let (w, y) := S.work q x.1
  let (r, t) := l.pace.outcome q.label x.2 w
  (r, y, t)

/-- What a lookup finds. -/
def parent (S : Source σ) (s : Scope) (x : σ) : Except Fault (Option Scope) :=
  (S.work (.parent s) x).1.result

/-- The store behind a lookup. -/
def after (S : Source σ) (s : Scope) (x : σ) : σ := (S.work (.parent s) x).2

/-- **What lookups of several scopes find**, one after the other. -/
def parents (S : Source σ) : List Scope → σ → List (Except Fault (Option Scope))
  | [], _ => []
  | s :: ss, x => S.parent s x :: S.parents ss (S.after s x)

theorem parents_steady (answer : (q : Query) → Except Fault q.Answer) (n : Nat) (x : σ) :
    ∀ path : List Scope, (steady answer n).parents path x = path.map fun s => answer (.parent s)
  | [] => rfl
  | s :: path => congrArg (answer (.parent s) :: ·) (parents_steady answer n x path)

/-- Without limits, a lookup finds what the store answers. -/
theorem ask_parent (S : Source σ) (s : Scope) (x : σ) (t : Instant) :
    (S.ask {} (.parent s) (x, t)).1 = S.parent s x ∧
      (S.ask {} (.parent s) (x, t)).2.1 = S.after s x := by
  obtain ⟨n, hn⟩ := Option.ne_none_iff_exists'.1 (S.ends (.parent s) x)
  refine ⟨?_, rfl⟩
  have hfin : (({} : Limits).pace.ending t (S.work (.parent s) x).1.duration).1 = .finished := by
    rw [hn]
    exact Limits.ending_unlimited t n
  exact Pace.outcome_of_finished _ hfin

/-! ## Climbs -/

/-- **The way that answers lead up from a scope**: each scope is what was found for the one before,
and of the level above it.  The last answer is that for the last scope. -/
structure Climb (S : Source σ) (x : σ) (s : Scope) (path : List Scope)
    (last : Except Fault (Option Scope)) : Prop where
  starts : path.head? = some s
  levels : path.IsChain fun a b => a.type.parent = some b.type
  answers : S.parents path x = (path.tail.map fun p => .ok (some p)) ++ [last]

/-- **A chain from a scope to its organization**: each scope is the parent of the one before, of the
level that its parent must have, and the last one is an organization without a parent. -/
structure Lineage (S : Source σ) (x : σ) (s : Scope) (chain : List Scope) : Prop where
  climb : S.Climb x s chain (.ok none)
  top : ∃ root, chain.getLast? = some root ∧ root.type = .organization

variable {S : Source σ} {x : σ} {s a b : Scope} {rest path : List Scope}
  {last : Except Fault (Option Scope)}

theorem climb_singleton : S.Climb x s [a] last ↔ a = s ∧ last = S.parent s x := by
  constructor
  · rintro ⟨hstart, -, hanswers⟩
    cases hstart
    exact ⟨rfl, (List.cons.inj hanswers).1.symm⟩
  · rintro ⟨rfl, rfl⟩
    exact ⟨rfl, .singleton a, rfl⟩

theorem climb_cons_cons : S.Climb x s (a :: b :: rest) last ↔
    a = s ∧ S.parent s x = .ok (some b) ∧ s.type.parent = some b.type ∧
      S.Climb (S.after s x) b (b :: rest) last := by
  constructor
  · rintro ⟨hstart, hlevels, hanswers⟩
    cases hstart
    obtain ⟨hlevel, hrest⟩ := List.isChain_cons_cons.1 hlevels
    obtain ⟨hparent, hanswers⟩ := List.cons.inj hanswers
    exact ⟨rfl, hparent, hlevel, rfl, hrest, hanswers⟩
  · rintro ⟨rfl, hparent, hlevel, -, hrest, hanswers⟩
    exact ⟨rfl, List.isChain_cons_cons.2 ⟨hlevel, hrest⟩,
      congrArg₂ List.cons hparent hanswers⟩

theorem Climb.exists_top (h : S.Climb x s path last) : ∃ top, path.getLast? = some top := by
  obtain ⟨rest, rfl⟩ := List.head?_eq_some_iff.1 h.starts
  exact ⟨_, List.getLast?_eq_some_getLast (List.cons_ne_nil s rest)⟩

end Source

/-! ## What the engine makes of a climb -/

/-- **What is made of a climb** that stops at a scope: the fault of the lookup, the chain, or a
fault of the tree. -/
def conclusion (path : List Scope) (top : Scope) :
    Except Fault (Option Scope) → Except Fault (List Scope)
  | .error e => .error e
  | .ok none =>
    if top.type.parent = none then .ok path else .error (inconsistentTree top none)
  | .ok (some p) => .error (inconsistentTree top (some p))

theorem conclusion_cons (s top : Scope) (path : List Scope) (last : Except Fault (Option Scope)) :
    conclusion (s :: path) top last = (conclusion path top last).map (s :: ·) := by
  rcases last with e | _ | p
  · rfl
  · by_cases hroot : top.type.parent = none
    · rw [conclusion, if_pos hroot, conclusion, if_pos hroot]
      rfl
    · rw [conclusion, if_neg hroot, conclusion, if_neg hroot]
      rfl
  · rfl

/-- A chain is handed on behind an organization without a parent. -/
theorem conclusion_eq_ok {path chain : List Scope} {top : Scope}
    {last : Except Fault (Option Scope)} : conclusion path top last = .ok chain ↔
      path = chain ∧ last = .ok none ∧ top.type = .organization := by
  rcases last with e | _ | p
  · simp [conclusion]
  · cases h : top.type <;> simp [conclusion, h, ScopeType.parent]
  · simp [conclusion]

/-- What is neither a chain nor the fault of a lookup is a fault of the tree. -/
theorem conclusion_cases (path : List Scope) (top : Scope) (last : Except Fault (Option Scope)) :
    (∃ e, last = .error e) ∨ (∃ chain, conclusion path top last = .ok chain) ∨
      ∃ message, conclusion path top last = .error (.internalError message) := by
  rcases last with e | _ | p
  · exact .inl ⟨e, rfl⟩
  · by_cases hroot : top.type.parent = none
    · exact .inr (.inl ⟨path, if_pos hroot⟩)
    · exact .inr (.inr ⟨_, if_neg hroot⟩)
  · exact .inr (.inr ⟨_, rfl⟩)

/-- **An answer leads on** from a scope if it is a scope of the level above. -/
def LeadsOn (top : Scope) : Except Fault (Option Scope) → Prop
  | .ok (some p) => top.type.parent = some p.type
  | _ => False

/-- How a climb goes on from a scope, given the parent that was found. -/
def onwards (s : Scope) : Option Scope → Inquiry (List Scope)
  | none => if s.type.parent = none then pure [s] else throw (inconsistentTree s none)
  | some p =>
    if s.type.parent = some p.type then do return s :: (← effectiveScopes p)
    else throw (inconsistentTree s (some p))

theorem effectiveScopes_eq (s : Scope) :
    effectiveScopes s = Inquiry.parent s >>= onwards s := by
  rw [effectiveScopes]
  congr 1
  funext parent
  unfold onwards
  cases parent with
  | none => split <;> simp_all
  | some p =>
    split
    · simp_all
    next q t hp hlevel =>
      cases hp
      simp only [hlevel, Option.some.injEq, eq_comm (a := t)]
      rfl
    · simp_all

/-- A parent that does not lead on ends the climb. -/
theorem run_onwards {s : Scope} {parent : Option Scope} (h : ¬ LeadsOn s (.ok parent)) :
    (onwards s parent).run = .done (conclusion [s] s (.ok parent)) := by
  cases parent with
  | none =>
    by_cases hroot : s.type.parent = none
    · rw [conclusion, if_pos hroot]
      exact congrArg ExceptT.run (if_pos hroot)
    · rw [conclusion, if_neg hroot]
      exact congrArg ExceptT.run (if_neg hroot)
  | some p => exact congrArg ExceptT.run (if_neg h)

section Climbing

variable {answer : Oracle Query Query.Answer σ} {s p : Scope} {x y : σ}

theorem fst_run_effectiveScopes : ((effectiveScopes s).run.run answer x).1 =
    (answer (.parent s) x).1.bind fun r =>
      ((onwards s r).run.run answer (answer (.parent s) x).2).1 := by
  rw [effectiveScopes_eq, Procedure.fst_run_bind]
  rfl

theorem asked_effectiveScopes : (effectiveScopes s).run.asked answer x =
    .parent s :: (ExceptT.bindCont (onwards s) (answer (.parent s) x).1).asked answer
      (answer (.parent s) x).2 := by
  rw [effectiveScopes_eq]
  rfl

/-- **An answer that does not lead on** ends the climb. -/
theorem run_of_stop {r : Except Fault (Option Scope)} (h : answer (.parent s) x = (r, y))
    (hstop : ¬ LeadsOn s r) :
    ((effectiveScopes s).run.run answer x).1 = conclusion [s] s r ∧
      (effectiveScopes s).run.asked answer x = [.parent s] := by
  rw [fst_run_effectiveScopes, asked_effectiveScopes, h]
  cases r with
  | error e => exact ⟨rfl, rfl⟩
  | ok parent =>
    have hrun := run_onwards hstop
    constructor
    · change ((onwards s parent).run.run answer y).1 = _
      rw [hrun]
      rfl
    · change Query.parent s :: (onwards s parent).run.asked answer y = _
      rw [hrun]
      rfl

/-- **An answer that leads on** is the next scope of the climb. -/
theorem run_of_parent (h : answer (.parent s) x = (.ok (some p), y))
    (hlevel : s.type.parent = some p.type) :
    ((effectiveScopes s).run.run answer x).1 =
        ((effectiveScopes p).run.run answer y).1.map (s :: ·) ∧
      (effectiveScopes s).run.asked answer x =
        .parent s :: (effectiveScopes p).run.asked answer y := by
  have hgo : onwards s (some p) = (do return s :: (← effectiveScopes p)) := if_pos hlevel
  rw [fst_run_effectiveScopes, asked_effectiveScopes, h]
  constructor
  · change ((onwards s (some p)).run.run answer y).1 = _
    rw [hgo, Procedure.fst_run_bind]
    rfl
  · change Query.parent s :: (onwards s (some p)).run.asked answer y = _
    rw [hgo]
    change Query.parent s :: ((effectiveScopes p).run.bind _).asked answer y = _
    rw [Plan.asked_bind]
    cases ((effectiveScopes p).run.run answer y).1 <;> exact congrArg _ (List.append_nil _)

end Climbing

/-! ## The climb in any store -/

namespace Source

variable {S : Source σ} {x : σ} {s : Scope} {path : List Scope}
  {last : Except Fault (Option Scope)}

/-- **A climb that stops** decides what the engine hands on, and which questions it puts. -/
theorem run_of_climb (h : S.Climb x s path last) (t : Instant) {top : Scope}
    (htop : path.getLast? = some top) (hstop : ¬ LeadsOn top last) :
    ((effectiveScopes s).run.run (S.ask {}) (x, t)).1 = conclusion path top last ∧
      (effectiveScopes s).run.asked (S.ask {}) (x, t) = path.map .parent := by
  induction path generalizing s x t with
  | nil => cases htop
  | cons a rest ih =>
    have hask := S.ask_parent a x t
    cases rest with
    | nil =>
      obtain ⟨rfl, rfl⟩ := climb_singleton.1 h
      cases htop
      exact run_of_stop (Prod.ext hask.1 rfl) hstop
    | cons p rest =>
      obtain ⟨rfl, hparent, hlevel, hrest⟩ := climb_cons_cons.1 h
      have hgo := run_of_parent (Prod.ext (hask.1.trans hparent) rfl) hlevel
      rw [List.getLast?_cons_cons] at htop
      obtain ⟨hresult, hasked⟩ := ih hrest (S.ask {} (.parent a) (x, t)).2.2 htop
      rw [← hask.2] at hresult hasked
      exact ⟨hgo.1.trans ((congrArg _ hresult).trans (conclusion_cons a top _ last).symm),
        hgo.2.trans (congrArg _ hasked)⟩

theorem length_le_of_isChain : ∀ {path : List Scope} {s : Scope}, path.head? = some s →
    path.IsChain (fun a b => a.type.parent = some b.type) → path.length ≤ s.type.depth + 1
  | [a], s, hhead, _ => by simp
  | a :: b :: rest, s, hhead, hlevels => by
    cases hhead
    obtain ⟨hlevel, hrest⟩ := List.isChain_cons_cons.1 hlevels
    have hle := length_le_of_isChain (s := b) rfl hrest
    have := ScopeType.depth_parent hlevel
    simp only [List.length_cons] at hle ⊢
    omega

/-- **Every climb stops.**  What leads on leads one level up, and there are three. -/
theorem exists_climb (S : Source σ) (x : σ) (s : Scope) :
    ∃ path top last, S.Climb x s path last ∧ path.getLast? = some top ∧ ¬ LeadsOn top last := by
  by_cases h : LeadsOn s (S.parent s x)
  · obtain ⟨p, hparent, hlevel⟩ : ∃ p, S.parent s x = .ok (some p) ∧
        s.type.parent = some p.type := by
      revert h
      rcases S.parent s x with e | _ | p
      · exact False.elim
      · exact False.elim
      · exact fun h => ⟨p, rfl, h⟩
    obtain ⟨path, top, last, hclimb, htop, hstop⟩ := exists_climb S (S.after s x) p
    obtain ⟨rest, rfl⟩ := List.head?_eq_some_iff.1 hclimb.starts
    exact ⟨s :: p :: rest, top, last, climb_cons_cons.2 ⟨rfl, hparent, hlevel, hclimb⟩,
      by rwa [List.getLast?_cons_cons], hstop⟩
  · exact ⟨[s], s, _, climb_singleton.2 ⟨rfl, rfl⟩, rfl, h⟩
termination_by s.type.depth
decreasing_by
  have := ScopeType.depth_parent hlevel
  omega

end Source

/-- **The climb reaches an organization or fails.**  In any store, without a deadline or a
cancellation, it puts at most three questions, all for parents.  It hands on a chain exactly if that
is a lineage; the fault of a lookup is handed on as it is; and whatever else was found, the result
is a fault of the tree. -/
theorem climb_reaches_root_or_fails (S : Source σ) (x : σ) (t : Instant) (s : Scope) :
    (∃ path : List Scope, path.length ≤ 3 ∧
      (effectiveScopes s).run.asked (S.ask {}) (x, t) = path.map .parent) ∧
    (∀ chain, ((effectiveScopes s).run.run (S.ask {}) (x, t)).1 = .ok chain ↔
      S.Lineage x s chain) ∧
    (∀ path e, S.Climb x s path (.error e) →
      ((effectiveScopes s).run.run (S.ask {}) (x, t)).1 = .error e) ∧
    ((¬ ∃ chain, S.Lineage x s chain) → (¬ ∃ path e, S.Climb x s path (.error e)) →
      ∃ message, ((effectiveScopes s).run.run (S.ask {}) (x, t)).1 =
        .error (.internalError message)) := by
  obtain ⟨path, top, last, hclimb, htop, hstop⟩ := S.exists_climb x s
  obtain ⟨hresult, hasked⟩ := Source.run_of_climb hclimb t htop hstop
  have hshort := Source.length_le_of_isChain hclimb.starts hclimb.levels
  have hdepth : s.type.depth ≤ 2 := by cases s.type <;> decide
  have hok : ∀ chain, ((effectiveScopes s).run.run (S.ask {}) (x, t)).1 = .ok chain ↔
      S.Lineage x s chain := by
    intro chain
    constructor
    · intro h
      rw [hresult] at h
      obtain ⟨rfl, rfl, hroot⟩ := conclusion_eq_ok.1 h
      exact ⟨hclimb, top, htop, hroot⟩
    · rintro ⟨hchain, root, hroot, horganization⟩
      rw [(Source.run_of_climb hchain t hroot id).1]
      exact conclusion_eq_ok.2 ⟨rfl, rfl, horganization⟩
  refine ⟨⟨path, by omega, hasked⟩, hok, fun path' e h => ?_, fun hchain hfault => ?_⟩
  · obtain ⟨top', htop'⟩ := h.exists_top
    exact (Source.run_of_climb h t htop' id).1
  · rcases conclusion_cases path top last with ⟨e, rfl⟩ | ⟨chain, h⟩ | h
    · exact (hfault ⟨path, e, hclimb⟩).elim
    · exact (hchain ⟨chain, (hok chain).1 (hresult.trans h)⟩).elim
    · rwa [hresult]

/-- A store in which everything lies in one project, that project too. -/
def circular : Source Unit :=
  .steady (fun q => match q with
    | .parent _ => .ok (some (.project "prj-1"))
    | _ => .error (.storeUnavailable "parents only")) 1

/-- From a resource of a store that leads in a circle, the climb ends with a fault of the tree. -/
theorem climb_reaches_root_or_fails_circular : ∃ message,
    ((effectiveScopes (.resource "res-1")).run.run (circular.ask {}) ((), 0)).1 =
      .error (.internalError message) := by
  obtain ⟨-, -, -, hfails⟩ := climb_reaches_root_or_fails circular () 0 (.resource "res-1")
  -- no lookup fails and none says that there is no parent, so no climb ends with such an answer
  have hlast : ∀ {path last}, circular.Climb () (.resource "res-1") path last →
      last = .ok (some (.project "prj-1")) := by
    intro path last h
    have hmem : last ∈ circular.parents path () := by
      rw [h.answers]
      simp
    rw [circular, Source.parents_steady] at hmem
    obtain ⟨_, _, hparent⟩ := List.mem_map.1 hmem
    exact hparent.symm
  refine hfails ?_ ?_
  · rintro ⟨chain, hchain⟩
    cases hlast hchain.climb
  · rintro ⟨path, e, hclimb⟩
    cases hlast hclimb

end Engine

end TenantGuard
