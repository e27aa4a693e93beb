import Mathlib.Data.List.Dedup
import Mathlib.Data.List.Perm.Subperm
import TenantGuard.Auth.LoginMemory
import TenantGuard.Proofs.Lookup

/-!
# What is remembered of logins

A memory stands for the logins that were recorded so far, a list of users and instants.

* `Remembers` says that it does: it holds nothing else, and of the fresh logins it misses none;
* `Remembers.knows_iff`: a user is known exactly if one of his logins is fresh;
* `Remembers.later` and `Remembers.remember`: time may pass, and a login may be recorded;
* `Remembers.le_of_forgotten` and `Remembers.length_remember_le`: what sweeping spares, and how much
  is left behind it.
-/

namespace TenantGuard.LoginMemory

variable {p : Policy} {m : LoginMemory} {recorded : List (String × Instant)}
  {now now' since since' : Instant} {user : String} {e : String × Instant}

/-- The users with a fresh login, each of them once. -/
def freshUsers (p : Policy) (now : Instant) (recorded : List (String × Instant)) : List String :=
  ((recorded.filter fun e => p.isFresh now e.2).map Prod.fst).dedup

/-- **A memory of recorded logins**: of a user it holds one login at most, and one that is no older
than any fresh login of his. -/
structure Remembers (p : Policy) (recorded : List (String × Instant)) (now : Instant)
    (m : LoginMemory) : Prop where
  distinct : (m.entries.map Prod.fst).Nodup
  sound : ∀ e ∈ m.entries, e ∈ recorded
  complete : ∀ e ∈ recorded, p.isFresh now e.2 = true →
    ∃ since, (e.1, since) ∈ m.entries ∧ e.2 ≤ since
  past : ∀ e ∈ recorded, e.2 ≤ now

/-! ## Freshness -/

theorem isFresh_iff (hpast : since ≤ now) :
    p.isFresh now since = true ↔ now < since + p.lifetime := by
  rw [Policy.isFresh, decide_eq_true_eq]
  exact Nat.sub_lt_iff_lt_add' hpast

/-- What is fresh was so before, and what is more recent is fresh, too. -/
theorem isFresh_of_le (hnow : now ≤ now') (hsince : since ≤ since')
    (h : p.isFresh now' since = true) : p.isFresh now since' = true := by
  rw [Policy.isFresh, decide_eq_true_eq] at *
  have hle : now - since' ≤ now' - since :=
    Nat.le_trans (Nat.sub_le_sub_right hnow _) (Nat.sub_le_sub_left hsince _)
  exact Nat.lt_of_le_of_lt hle h

/-! ## Looking users up -/

/-- **A user is known exactly if one of his logins is fresh.** -/
theorem Remembers.knows_iff (h : Remembers p recorded now m) (user : String) :
    m.knows p now user = true ↔ ∃ since, (user, since) ∈ recorded ∧ p.isFresh now since = true := by
  rw [knows, Option.any_eq_true]
  constructor
  · rintro ⟨since, hlookup, hfresh⟩
    exact ⟨since, h.sound _ ((lookup_eq_some_iff_mem h.distinct).1 hlookup), hfresh⟩
  · rintro ⟨t, hmem, hfresh⟩
    obtain ⟨since, hentry, hle⟩ := h.complete _ hmem hfresh
    exact ⟨since, (lookup_eq_some_iff_mem h.distinct).2 hentry,
      isFresh_of_le (Nat.le_refl _) hle hfresh⟩

/-! ## Time -/

theorem remembers_empty (p : Policy) (now : Instant) : Remembers p [] now {} :=
  ⟨List.nodup_nil, nofun, nofun, nofun⟩

theorem Remembers.later (h : Remembers p recorded now m) (hle : now ≤ now') :
    Remembers p recorded now' m :=
  ⟨h.distinct, h.sound,
    fun e he hfresh => h.complete e he (isFresh_of_le hle (Nat.le_refl _) hfresh),
    fun e he => Nat.le_trans (h.past e he) hle⟩

/-! ## Remembering a login -/

/-- The entries with a user's new login in the place of the old one. -/
def renewed (m : LoginMemory) (now : Instant) (user : String) : List (String × Instant) :=
  (user, now) :: m.entries.filter (·.1 != user)

theorem remember_entries (m : LoginMemory) (p : Policy) (now : Instant) (user : String) :
    (m.remember p now user).entries =
      if p.sweepAbove < (m.renewed now user).length then
        (m.renewed now user).filter fun e => p.isFresh now e.2
      else m.renewed now user := by
  unfold remember renewed
  simp only
  split
  · rfl
  · rfl

theorem mem_renewed :
    e ∈ m.renewed now user ↔ e = (user, now) ∨ e ∈ m.entries ∧ e.1 ≠ user := by
  simp [renewed]

/-- Sweeping drops entries at most. -/
theorem sublist_remember (m : LoginMemory) (p : Policy) (now : Instant) (user : String) :
    (m.remember p now user).entries.Sublist (m.renewed now user) := by
  rw [remember_entries]
  split
  · exact List.filter_sublist
  · exact List.Sublist.refl _

/-- **A fresh entry is spared by sweeping.** -/
theorem mem_remember_of_fresh (hmem : e ∈ m.renewed now user)
    (hfresh : p.isFresh now e.2 = true) : e ∈ (m.remember p now user).entries := by
  rw [remember_entries]
  split
  · exact List.mem_filter.2 ⟨hmem, hfresh⟩
  · exact hmem

theorem distinct_renewed (h : (m.entries.map Prod.fst).Nodup) (now : Instant) (user : String) :
    ((m.renewed now user).map Prod.fst).Nodup := by
  rw [renewed, List.map_cons, List.nodup_cons]
  constructor
  · simp
  · exact h.sublist (List.filter_sublist.map Prod.fst)

/-- **A login is remembered with the others.** -/
theorem Remembers.remember (h : Remembers p recorded now m) (hle : now ≤ now') (user : String) :
    Remembers p (recorded ++ [(user, now')]) now' (m.remember p now' user) := by
  have hlater := h.later hle
  have hsub := sublist_remember m p now' user
  refine ⟨(distinct_renewed h.distinct now' user).sublist (hsub.map Prod.fst), ?_, ?_, ?_⟩
  · intro e he
    rw [List.mem_append, List.mem_singleton]
    rcases mem_renewed.1 (hsub.mem he) with hnew | ⟨hold, -⟩
    · exact .inr hnew
    · exact .inl (h.sound e hold)
  · intro e he hfresh
    rw [List.mem_append, List.mem_singleton] at he
    have hlast : e.2 ≤ now' := by
      rcases he with hold | rfl
      · exact hlater.past e hold
      · exact Nat.le_refl _
    by_cases huser : e.1 = user
    · -- the user's new login is no older than any of his others
      refine ⟨now', mem_remember_of_fresh (mem_renewed.2 (.inl ?_)) ?_, hlast⟩
      · rw [huser]
      · exact isFresh_of_le (Nat.le_refl _) hlast hfresh
    · rcases he with hold | rfl
      · obtain ⟨since, hentry, hsince⟩ := hlater.complete e hold hfresh
        exact ⟨since, mem_remember_of_fresh (mem_renewed.2 (.inr ⟨hentry, huser⟩))
          (isFresh_of_le (Nat.le_refl _) hsince hfresh), hsince⟩
      · exact absurd rfl huser
  · intro e he
    rw [List.mem_append, List.mem_singleton] at he
    rcases he with hold | rfl
    · exact hlater.past e hold
    · exact Nat.le_refl _

/-! ## Sweeping -/

/-- **Only what is no longer fresh is forgotten** when the login of an unknown user is remembered,
be it swept or the user's own. -/
theorem Remembers.le_of_forgotten (h : Remembers p recorded now m)
    (hunknown : m.knows p now user = false) (hle : now ≤ now') (hmem : e ∈ m.entries)
    (hgone : e ∉ (m.remember p now' user).entries) : e.2 + p.lifetime ≤ now' := by
  have hpast : e.2 ≤ now' := Nat.le_trans (h.past e (h.sound e hmem)) hle
  refine Nat.le_of_not_lt fun hlt => ?_
  have hfresh : p.isFresh now' e.2 = true := (isFresh_iff hpast).2 hlt
  by_cases huser : e.1 = user
  · have hknown : m.knows p now user = true :=
      (h.knows_iff user).2 ⟨e.2, huser ▸ h.sound e hmem, isFresh_of_le hle (Nat.le_refl _) hfresh⟩
    rw [hunknown] at hknown
    cases hknown
  · exact hgone (mem_remember_of_fresh (mem_renewed.2 (.inr ⟨hmem, huser⟩)) hfresh)

/-- **How much is left** when a login was remembered: no more than what is never swept, or one entry
for each user with a fresh login. -/
theorem Remembers.length_remember_le (h : Remembers p recorded now m) (hle : now ≤ now')
    (user : String) : (m.remember p now' user).entries.length ≤
      max p.sweepAbove (freshUsers p now' (recorded ++ [(user, now')])).length := by
  have hafter := h.remember hle user
  by_cases hswept : p.sweepAbove < (m.renewed now' user).length
  · have hfresh : ∀ e ∈ (m.remember p now' user).entries, p.isFresh now' e.2 = true := by
      intro e he
      rw [remember_entries, if_pos hswept] at he
      exact (List.mem_filter.1 he).2
    have hsubset : (m.remember p now' user).entries.map Prod.fst ⊆
        freshUsers p now' (recorded ++ [(user, now')]) := by
      intro name hname
      obtain ⟨e, he, rfl⟩ := List.mem_map.1 hname
      rw [freshUsers, List.mem_dedup]
      exact List.mem_map_of_mem (List.mem_filter.2 ⟨hafter.sound e he, hfresh e he⟩)
    have hlength := (List.subperm_of_subset hafter.distinct hsubset).length_le
    rw [List.length_map] at hlength
    exact Nat.le_trans hlength (Nat.le_max_right _ _)
  · rw [remember_entries, if_neg hswept]
    exact Nat.le_trans (Nat.le_of_not_lt hswept) (Nat.le_max_left _ _)

end TenantGuard.LoginMemory
