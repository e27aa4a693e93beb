import TenantGuard.Proofs.Execution
import TenantGuard.Proofs.Store.Rows

/-!
# What a move of rows comes to

When the rows of one user go to another, each row meets its fate on its own: it stays, it changes
hands, or it gives way to a row of the other user.  Nothing is supposed of the rows, so that there
may be several of one grant, active ones and expired ones.

* `Survivors` says which rows are left, and that they are in their order;
* `Moved` says what a move comes to: what was not held already changes hands, and nothing else
  happens;
* `survivors_kept` and `moved_reassign`: that is what the rewriting of the rows does;
* `perform_reassignUser`: it is all that a transaction does to its copy when it moves rows.
-/

namespace TenantGuard.Store

namespace State

variable {now : Moment} {source target : String} {rows : List Assignment} {a : Assignment}

/-- **The rows that are left by a move**, by whose they were. -/
structure Survivors (now : Moment) (source target : String) (rows kept : List Assignment) :
    Prop where
  /-- They are in their order, and no row is new. -/
  sublist : kept.Sublist rows
  /-- All rows of everybody else stay. -/
  others : kept.filter (fun a => a.userId ≠ source ∧ a.userId ≠ target) =
    rows.filter fun a => a.userId ≠ source ∧ a.userId ≠ target
  /-- All active rows of the target stay. -/
  active : kept.filter (fun a => a.userId = target ∧ a.isActiveAt now = true) =
    rows.filter fun a => a.userId = target ∧ a.isActiveAt now = true
  /-- Its expired rows go where the source has a row of the same role and scope. -/
  replaced : ∀ a ∈ kept, a.userId = target → a.isActiveAt now = false →
    ∀ b ∈ rows, b.userId = source → b.roleId = a.roleId → b.scope ≠ a.scope
  /-- They stay where it has none. -/
  unmatched : ∀ roleId scope, (∀ b ∈ rows, b.key ≠ ⟨source, roleId, scope⟩) →
    kept.filter (·.key = ⟨target, roleId, scope⟩) = rows.filter (·.key = ⟨target, roleId, scope⟩)
  /-- All rows of the source stay, active and expired ones, where the target has no active one. -/
  unheld : ∀ roleId scope, ¬ HoldsActive rows target now roleId scope →
    kept.filter (·.key = ⟨source, roleId, scope⟩) = rows.filter (·.key = ⟨source, roleId, scope⟩)
  /-- They go where it has one. -/
  held : ∀ a ∈ kept, a.userId = source → ¬ HoldsActive rows target now a.roleId a.scope

/-- **What a move comes to.** -/
structure Moved (now : Moment) (source target : String) (rows rows' : List Assignment)
    (count : Nat) : Prop where
  /-- Of the rows that are left those of the source change hands, and they keep all else. -/
  survivors : ∃ kept, Survivors now source target rows kept ∧
    rows' = kept.map (handed source target) ∧
    count = kept.countP fun a => (handed source target a).userId ≠ a.userId
  /-- The source owns nothing any more. -/
  gone : ∀ a ∈ rows', a.userId ≠ source
  /-- The target holds what either of the two held. -/
  holds : ∀ roleId scope, HoldsActive rows' target now roleId scope ↔
    HoldsActive rows target now roleId scope ∨ HoldsActive rows source now roleId scope

/-! ## The rows that are left -/

/-- The rows that do not give way. -/
def kept (now : Moment) (source target : String) (rows : List Assignment) : List Assignment :=
  rows.filter fun a => !givesWay rows source target now a

theorem mem_kept :
    a ∈ kept now source target rows ↔ a ∈ rows ∧ givesWay rows source target now a = false := by
  simp [kept]

/-- Of rows that do not give way none is lost. -/
theorem filter_kept {p : Assignment → Prop} [DecidablePred p]
    (h : ∀ a ∈ rows, p a → givesWay rows source target now a = false) :
    (kept now source target rows).filter p = rows.filter p := by
  rw [kept, List.filter_filter]
  refine List.filter_congr fun a ha => ?_
  by_cases hp : p a
  · simp [hp, h a ha hp]
  · simp [hp]

/-- **A row of the source gives way** to an active one of the target. -/
theorem givesWay_of_source (h : source ≠ target) (hu : a.userId = source) :
    givesWay rows source target now a = true ↔ HoldsActive rows target now a.roleId a.scope := by
  rw [givesWay_iff]
  constructor
  · rintro (⟨ht, -⟩ | ⟨-, hheld⟩)
    · exact absurd (hu.symm.trans ht) h
    · exact hheld
  · intro hheld
    exact .inr ⟨hu, hheld⟩

/-- **A row of the target gives way** when it has expired and the source has one. -/
theorem givesWay_of_target (h : source ≠ target) (hu : a.userId = target) :
    givesWay rows source target now a = true ↔ a.isActiveAt now = false ∧
      ∃ b ∈ rows, b.userId = source ∧ b.roleId = a.roleId ∧ b.scope = a.scope := by
  rw [givesWay_iff]
  constructor
  · rintro (⟨-, hexpired, hmatch⟩ | ⟨hs, -⟩)
    · exact ⟨hexpired, hmatch⟩
    · exact absurd (hs.symm.trans hu) h
  · rintro ⟨hexpired, hmatch⟩
    exact .inl ⟨hu, hexpired, hmatch⟩

theorem survivors_kept (h : source ≠ target) (now : Moment) (rows : List Assignment) :
    Survivors now source target rows (kept now source target rows) where
  sublist := List.filter_sublist
  others := filter_kept fun a _ hu => givesWay_of_ne hu.1 hu.2
  active := filter_kept fun a _ hu => not_givesWay_of_active h hu.1 hu.2
  replaced a ha hu hexpired b hb hub hrole hscope := by
    have hstays := (mem_kept.1 ha).2
    have hgives := (givesWay_of_target h hu).2 ⟨hexpired, b, hb, hub, hrole, hscope⟩
    simp [hstays] at hgives
  unmatched roleId scope hnone := by
    refine filter_kept fun a _ hkey => ?_
    obtain ⟨hu, hrole, hscope⟩ : a.userId = target ∧ a.roleId = roleId ∧ a.scope = scope := by
      simpa [Assignment.key] using hkey
    rw [Bool.eq_false_iff, Ne, givesWay_of_target h hu]
    rintro ⟨-, b, hb, hub, hrb, hsb⟩
    exact hnone b hb (by simp [Assignment.key, hub, hrb, hsb, hrole, hscope])
  unheld roleId scope hnot := by
    refine filter_kept fun a _ hkey => ?_
    obtain ⟨hu, rfl, rfl⟩ : a.userId = source ∧ a.roleId = roleId ∧ a.scope = scope := by
      simpa [Assignment.key] using hkey
    rw [Bool.eq_false_iff, Ne, givesWay_of_source h hu]
    exact hnot
  held a ha hu hheld := by
    have hstays := (mem_kept.1 ha).2
    have hgives := (givesWay_of_source h hu).2 hheld
    simp [hstays] at hgives

/-- A row changes hands just if it was the source's. -/
theorem handed_userId_ne_iff (h : source ≠ target) :
    (handed source target a).userId ≠ a.userId ↔ a.userId = source := by
  rw [handed_userId]
  split
  next hu => simp [hu, h.symm]
  next hu => simp [hu]

/-- **What the rewriting of the rows comes to.** -/
theorem moved_reassign (h : source ≠ target) (now : Moment) (rows : List Assignment) :
    Moved now source target rows (reassign source target now rows).2
      (reassign source target now rows).1 where
  survivors := by
    refine ⟨kept now source target rows, survivors_kept h now rows, rfl, ?_⟩
    refine List.countP_congr fun a _ => ?_
    simpa using (handed_userId_ne_iff h).symm
  gone a ha := userId_ne_of_mem_reassign h ha
  holds roleId scope := holdsActive_reassign h

end State

/-! ## The step of a transaction -/

open State (Moved)

/-- **A transaction that moves the rows of a user** does what a move comes to, and no more. -/
theorem perform_reassignUser {s : Store} {w : State} (hopen : s.working = some w)
    (hpoint : .reassignUser ∉ s.failing) {source target : String} (h : source ≠ target)
    (now : Moment) :
    ∃ count rows, Moved now source target w.assignments rows count ∧
      s.perform now (.reassignUser source target) =
        (.ok count, { s with working := some { w with assignments := rows } }) := by
  refine ⟨_, _, State.moved_reassign h now w.assignments, ?_⟩
  have happlied : s.applied now (.reassignUser source target) =
      (Operation.reassignUser source target).apply now w := by
    refine applied_of_open hopen fun p hp => ?_
    cases hp
    exact hpoint
  rw [perform, happlied]
  rfl

/-- Rows of an invitation and of the user who claims it: the user holds the one role, has held the
other two, and the address was given one of these twice. -/
def claimedRows : List Assignment :=
  let organization : Scope := .organization "o1"
  let project : Scope := .project "p1"
  let past : Option Moment := some ⟨1, 0⟩
  [⟨"a1", "bob", "viewer", organization, none, ⟨0, 0⟩, none⟩,
    ⟨"a2", "bob", "editor", organization, none, ⟨0, 0⟩, past⟩,
    ⟨"a3", "bob@example.com", "viewer", organization, none, ⟨0, 0⟩, past⟩,
    ⟨"a4", "bob@example.com", "editor", organization, none, ⟨0, 0⟩, none⟩,
    ⟨"a5", "ann", "editor", organization, none, ⟨0, 0⟩, none⟩,
    ⟨"a6", "bob@example.com", "editor", organization, none, ⟨0, 0⟩, past⟩,
    ⟨"a7", "bob", "owner", project, none, ⟨0, 0⟩, past⟩,
    ⟨"a8", "bob@example.com", "viewer", project, none, ⟨0, 0⟩, past⟩]

/-- The expired row that is in the way of the claimed ones goes, and so does the one that is held
already; three rows change hands. -/
theorem perform_reassignUser_claimed :
    let w : State := { assignments := claimedRows }
    let s : Store := { committed := {}, working := some w }
    s.working = some w ∧ FailPoint.reassignUser ∉ s.failing ∧ "bob@example.com" ≠ "bob" ∧
      ∃ rows, Moved ⟨5, 0⟩ "bob@example.com" "bob" claimedRows rows 3 ∧
        s.perform ⟨5, 0⟩ (.reassignUser "bob@example.com" "bob") =
          (.ok (3 : Nat), { s with working := some { w with assignments := rows } }) ∧
        rows.map (fun a => (a.id, a.userId)) =
          [("a1", "bob"), ("a4", "bob"), ("a5", "ann"), ("a6", "bob"), ("a7", "bob"),
            ("a8", "bob")] := by
  intro w s
  have hpoint : FailPoint.reassignUser ∉ s.failing := List.not_mem_nil
  obtain ⟨count, rows, hmoved, hperform⟩ := perform_reassignUser (s := s) (w := w) rfl hpoint
    (by decide : "bob@example.com" ≠ "bob") ⟨5, 0⟩
  have hresult : (s.perform ⟨5, 0⟩ (.reassignUser "bob@example.com" "bob")).1 = .ok (3 : Nat) := rfl
  have hrows : (s.perform ⟨5, 0⟩ (.reassignUser "bob@example.com" "bob")).2.working.map
      (·.assignments.map fun a => (a.id, a.userId)) =
        some [("a1", "bob"), ("a4", "bob"), ("a5", "ann"), ("a6", "bob"), ("a7", "bob"),
          ("a8", "bob")] := rfl
  rw [hperform] at hresult hrows
  cases hresult
  exact ⟨rfl, hpoint, by decide, rows, hmoved, hperform, Option.some.inj hrows⟩

end TenantGuard.Store
