import TenantGuard.Proofs.Store.Rows
import Mathlib.Data.List.Nodup

/-!
# What a grant comes to

A grant looks for a row of its own.  What it finds decides the outcome, and no other row changes.

* `Granting` says what each outcome does to the rows, and `granting_grant` that this is what the
  rewriting of the rows does;
* `Granting.exists_row`: where no two rows are of one grant, there is afterwards one of this grant,
  and it is active;
* `Granting.created_iff`, `Granting.reactivated_iff` and `Granting.alreadyActive_iff`: the outcome
  says what was there before.
-/

namespace TenantGuard.Store.State

variable {now : Moment} {a row : Assignment} {rows rows' : List Assignment} {key : GrantKey}
  {outcome : GrantOutcome}

/-- **A row that is granted anew**: it keeps its identifier and takes the rest from the grant. -/
def renewed (a row : Assignment) : Assignment :=
  { row with expiresAt := a.expiresAt, assignedBy := a.assignedBy, createdAt := a.createdAt }

/-- **What a grant does to the rows**, by its outcome. -/
inductive Granting (now : Moment) (a : Assignment) :
    GrantOutcome → List Assignment → List Assignment → Prop where
  /-- There was no row of it. -/
  | created {rows : List Assignment} : a.key ∉ keys rows →
    Granting now a .created rows (rows ++ [a])
  /-- The first row of it had expired. -/
  | reactivated (pre : List Assignment) {post : List Assignment} {row : Assignment} :
    a.key ∉ keys pre → row.key = a.key → row.isActiveAt now = false →
    Granting now a .reactivated (pre ++ row :: post) (pre ++ renewed a row :: post)
  /-- The first row of it counts already. -/
  | alreadyActive (pre : List Assignment) {post : List Assignment} {row : Assignment} :
    a.key ∉ keys pre → row.key = a.key → row.isActiveAt now = true →
    Granting now a .alreadyActive (pre ++ row :: post) (pre ++ row :: post)

theorem not_mem_keys_cons (hrow : row.key ≠ key) (h : key ∉ keys rows) :
    key ∉ keys (row :: rows) := by
  simp only [keys, List.map_cons, List.mem_cons, not_or]
  exact ⟨hrow.symm, h⟩

/-- A row of another grant in front changes nothing. -/
theorem Granting.cons (h : Granting now a outcome rows rows') (hrow : row.key ≠ a.key) :
    Granting now a outcome (row :: rows) (row :: rows') := by
  cases h with
  | created hnone => exact .created (not_mem_keys_cons hrow hnone)
  | reactivated pre hpre hkey hexpired =>
    exact .reactivated (row :: pre) (not_mem_keys_cons hrow hpre) hkey hexpired
  | alreadyActive pre hpre hkey hactive =>
    exact .alreadyActive (row :: pre) (not_mem_keys_cons hrow hpre) hkey hactive

/-- **What the rewriting of the rows comes to.** -/
theorem granting_grant (now : Moment) (a : Assignment) : ∀ rows : List Assignment,
    Granting now a (grant now a rows).1 rows (grant now a rows).2
  | [] => .created List.not_mem_nil
  | row :: rows => by
    have ih := granting_grant now a rows
    unfold grant
    split
    next hkey =>
      split
      next hactive => exact .alreadyActive [] List.not_mem_nil hkey hactive
      next hexpired =>
        exact .reactivated [] List.not_mem_nil hkey (Bool.eq_false_iff.2 hexpired)
    next hkey => exact ih.cons hkey

/-! ## The row of a grant -/

theorem filter_key_of_not_mem (h : key ∉ keys rows) : rows.filter (·.key = key) = [] := by
  rw [List.filter_eq_nil_iff]
  intro row hrow hkey
  exact h (of_decide_eq_true hkey ▸ key_mem_keys hrow)

/-- Among rows of different grants there is one of each. -/
theorem filter_key_of_nodup {pre post : List Assignment}
    (hd : (keys (pre ++ row :: post)).Nodup) :
    (pre ++ row :: post).filter (·.key = row.key) = [row] := by
  rw [keys, List.map_append, List.map_cons, List.nodup_middle, List.nodup_cons, List.mem_append,
    not_or] at hd
  rw [List.filter_append, List.filter_cons_of_pos (by simp),
    filter_key_of_not_mem hd.1.1, filter_key_of_not_mem hd.1.2, List.nil_append]

theorem eq_of_key_eq (hd : (keys rows).Nodup) {row' : Assignment} (h : row ∈ rows)
    (h' : row' ∈ rows) (hkey : row.key = row'.key) : row = row' :=
  List.inj_on_of_nodup_map hd h h' hkey

/-- **After a grant that does not expire at once there is one row of it**, and that is active. -/
theorem Granting.exists_row (h : Granting now a outcome rows rows') (hd : (keys rows).Nodup)
    (ha : a.isActiveAt now = true) :
    ∃ row, rows'.filter (·.key = a.key) = [row] ∧ row.isActiveAt now = true := by
  cases h with
  | created hnone =>
    refine ⟨a, ?_, ha⟩
    rw [List.filter_append, filter_key_of_not_mem hnone, List.nil_append,
      List.filter_cons_of_pos (by simp), List.filter_nil]
  | @reactivated pre post row _ hkey _ =>
    refine ⟨renewed a row, ?_, ha⟩
    have hsame : (renewed a row).key = row.key := rfl
    rw [← hkey, ← hsame]
    refine filter_key_of_nodup ?_
    simpa [keys, hsame] using hd
  | alreadyActive _ _ hkey hactive => exact ⟨_, hkey ▸ filter_key_of_nodup hd, hactive⟩

/-! ## What the outcome says -/

theorem Granting.created_iff (h : Granting now a outcome rows rows') :
    outcome = .created ↔ ∀ row ∈ rows, row.key ≠ a.key := by
  constructor
  · rintro rfl
    cases h with
    | created hnone => exact fun row hrow hkey => hnone (hkey ▸ key_mem_keys hrow)
  · intro hnone
    cases h with
    | created _ => rfl
    | reactivated _ _ hkey _ => exact absurd hkey (hnone _ (by simp))
    | alreadyActive _ _ hkey _ => exact absurd hkey (hnone _ (by simp))

theorem Granting.reactivated_iff (h : Granting now a outcome rows rows')
    (hd : (keys rows).Nodup) : outcome = .reactivated ↔
      ∃ row ∈ rows, row.key = a.key ∧ row.isActiveAt now = false := by
  constructor
  · rintro rfl
    cases h with
    | reactivated _ _ hkey hexpired => exact ⟨_, by simp, hkey, hexpired⟩
  · rintro ⟨row, hrow, hkey, hexpired⟩
    cases h with
    | created hnone => exact absurd (hkey ▸ key_mem_keys hrow) hnone
    | reactivated _ _ _ _ => rfl
    | alreadyActive _ _ hfound hactive =>
      cases eq_of_key_eq hd hrow (by simp) (hkey.trans hfound.symm)
      simp [hactive] at hexpired

theorem Granting.alreadyActive_iff (h : Granting now a outcome rows rows')
    (hd : (keys rows).Nodup) : outcome = .alreadyActive ↔
      ∃ row ∈ rows, row.key = a.key ∧ row.isActiveAt now = true := by
  constructor
  · rintro rfl
    cases h with
    | alreadyActive _ _ hkey hactive => exact ⟨_, by simp, hkey, hactive⟩
  · rintro ⟨row, hrow, hkey, hactive⟩
    cases h with
    | created hnone => exact absurd (hkey ▸ key_mem_keys hrow) hnone
    | reactivated _ _ hfound hexpired =>
      cases eq_of_key_eq hd hrow (by simp) (hkey.trans hfound.symm)
      simp [hexpired] at hactive
    | alreadyActive _ _ _ _ => rfl

/-- A row that counts already is left alone. -/
theorem Granting.eq_of_alreadyActive (h : Granting now a .alreadyActive rows rows') :
    rows' = rows := by
  cases h
  rfl

end TenantGuard.Store.State
