import TenantGuard.Store.Operation

/-!
# What happens to the rows

Assignments are kept as a list of rows, and three operations rewrite it: a grant, a revocation and
the move of one user's rows to another.

* `keys_grant`, `keys_revoke_sublist` and `mem_keys_reassign` say which grants there are afterwards;
* `nodup_keys_grant`, `nodup_keys_revoke` and `nodup_keys_reassign`: none of them makes two rows of
  one grant;
* `filter_grant`, `filter_revoke` and `filter_reassign`: rows of other grants, and of users who have
  no part in a move, stay as they are;
* `holdsActive_grant`: after a grant its user holds its role, whatever rows there were;
* `holdsActive_reassign`: a user to whom rows are moved holds what either of the two held;
* `rekeyed_reassign`: a move hands rows over, and of two rows of one grant it drops one.
-/

namespace TenantGuard.Store.State

variable {now : Moment} {a row : Assignment} {rows : List Assignment} {key : GrantKey}
  {source target : String}

@[simp] theorem key_userId (a : Assignment) : a.key.userId = a.userId := rfl

@[simp] theorem key_roleId (a : Assignment) : a.key.roleId = a.roleId := rfl

@[simp] theorem key_scope (a : Assignment) : a.key.scope = a.scope := rfl

/-- **The grants that rows stand for.** -/
def keys (rows : List Assignment) : List GrantKey := rows.map Assignment.key

theorem key_mem_keys (h : row ∈ rows) : row.key ∈ keys rows := List.mem_map_of_mem h

/-! ## Granting -/

/-- **A grant adds its key** unless there is a row of it already. -/
theorem keys_grant (now : Moment) (a : Assignment) : ∀ rows : List Assignment,
    keys (grant now a rows).2 = if a.key ∈ keys rows then keys rows else keys rows ++ [a.key]
  | [] => by simp [grant, keys]
  | row :: rows => by
    have ih := keys_grant now a rows
    unfold grant
    split
    next hkey =>
      have hmem : a.key ∈ keys (row :: rows) := by simp [keys, hkey]
      rw [if_pos hmem]
      split
      · rfl
      · rfl
    next hkey =>
      change row.key :: keys (grant now a rows).2 = _
      rw [ih]
      have hiff : a.key ∈ keys (row :: rows) ↔ a.key ∈ keys rows := by
        simp only [keys, List.map_cons, List.mem_cons]
        exact or_iff_right fun h => hkey h.symm
      simp only [hiff]
      split
      · rfl
      · rfl

theorem mem_keys_grant {k : GrantKey} :
    k ∈ keys (grant now a rows).2 ↔ k ∈ keys rows ∨ k = a.key := by
  rw [keys_grant]
  split
  next h =>
    constructor
    · exact .inl
    · rintro (hk | rfl)
      · exact hk
      · exact h
  next h => simp

theorem nodup_keys_grant (h : (keys rows).Nodup) : (keys (grant now a rows).2).Nodup := by
  rw [keys_grant]
  split
  · exact h
  next hmem =>
    rw [List.nodup_append]
    refine ⟨h, by simp, ?_⟩
    rintro k hk l hl rfl
    rw [List.mem_singleton] at hl
    exact hmem (hl ▸ hk)

/-- **A grant leaves the rows of other grants alone.** -/
theorem filter_grant {p : GrantKey → Bool} (hp : p a.key = false) : ∀ rows : List Assignment,
    (grant now a rows).2.filter (fun row => p row.key) = rows.filter fun row => p row.key
  | [] => by simp [grant, hp]
  | row :: rows => by
    have ih := filter_grant hp rows
    unfold grant
    split
    next hkey =>
      have hrow : p row.key = false := by rw [hkey, hp]
      split
      · rfl
      · have hnew : p ({ row with
            expiresAt := a.expiresAt
            assignedBy := a.assignedBy
            createdAt := a.createdAt } : Assignment).key = false := hrow
        simp [hrow, hnew]
    · simp [List.filter_cons, ih]

/-- Where there is no row of a grant, one is added. -/
theorem grant_of_not_mem : ∀ {rows : List Assignment}, a.key ∉ keys rows →
    (grant now a rows).2 = rows ++ [a]
  | [], _ => rfl
  | row :: rows, h => by
    simp only [keys, List.map_cons, List.mem_cons, not_or] at h
    have ih := grant_of_not_mem h.2
    simp [grant, Ne.symm h.1, ih]

/-! ## Revoking -/

theorem keys_revoke_sublist (key : GrantKey) (rows : List Assignment) :
    (keys (revoke key rows)).Sublist (keys rows) := List.filter_sublist.map _

theorem nodup_keys_revoke (h : (keys rows).Nodup) : (keys (revoke key rows)).Nodup :=
  h.sublist (keys_revoke_sublist key rows)

/-- **A revocation leaves the rows of other grants alone.** -/
theorem filter_revoke {p : GrantKey → Bool} (hp : p key = false) (rows : List Assignment) :
    (revoke key rows).filter (fun row => p row.key) = rows.filter fun row => p row.key := by
  rw [revoke, List.filter_filter]
  refine List.filter_congr fun row _ => ?_
  by_cases hkey : row.key = key
  · simp [hkey, hp]
  · simp [hkey]

/-! ## Moving rows -/

/-- A row in the hands of another user. -/
def handed (source target : String) (a : Assignment) : Assignment :=
  if a.userId = source then { a with userId := target } else a

@[simp] theorem handed_roleId : (handed source target a).roleId = a.roleId := by
  unfold handed
  split <;> rfl

@[simp] theorem handed_scope : (handed source target a).scope = a.scope := by
  unfold handed
  split <;> rfl

@[simp] theorem handed_isActiveAt :
    (handed source target a).isActiveAt now = a.isActiveAt now := by
  unfold handed
  split <;> rfl

theorem handed_userId :
    (handed source target a).userId = if a.userId = source then target else a.userId := by
  unfold handed
  split <;> rfl

/-- A row comes to a user who it was handed to, or who had it. -/
theorem handed_userId_eq_target :
    (handed source target a).userId = target ↔ a.userId = target ∨ a.userId = source := by
  rw [handed_userId]
  split
  next hs => simp [hs]
  next hs => simp [hs]

theorem handed_of_ne (h : a.userId ≠ source) : handed source target a = a := if_neg h

theorem reassign_eq (source target : String) (now : Moment) (rows : List Assignment) :
    (reassign source target now rows).2 =
      (rows.filter fun a => !givesWay rows source target now a).map (handed source target) := rfl

theorem mem_reassign : row ∈ (reassign source target now rows).2 ↔
    ∃ a ∈ rows, givesWay rows source target now a = false ∧ handed source target a = row := by
  simp [reassign_eq, and_assoc]

theorem holds_iff {user : String} {active : Bool} : holds rows user now active a = true ↔
    ∃ b ∈ rows, b.userId = user ∧ b.roleId = a.roleId ∧ b.scope = a.scope ∧
      b.isActiveAt now = active := by
  simp [holds, and_assoc]

theorem holdsAny_iff {user : String} : holdsAny rows user a = true ↔
    ∃ b ∈ rows, b.userId = user ∧ b.roleId = a.roleId ∧ b.scope = a.scope := by
  simp [holdsAny, and_assoc]

/-- **A row gives way** if it is an expired one of the target and the source has a row of the same
grant, or one of the source and the target has an active row of the same grant. -/
theorem givesWay_iff : givesWay rows source target now a = true ↔
    (a.userId = target ∧ a.isActiveAt now = false ∧ ∃ b ∈ rows, b.userId = source ∧
      b.roleId = a.roleId ∧ b.scope = a.scope) ∨
    (a.userId = source ∧ ∃ b ∈ rows, b.userId = target ∧ b.roleId = a.roleId ∧
      b.scope = a.scope ∧ b.isActiveAt now = true) := by
  simp [givesWay, holdsAny_iff, holds_iff, and_assoc]

/-- Of a user who has no part in the move no row gives way. -/
theorem givesWay_of_ne (hs : a.userId ≠ source) (ht : a.userId ≠ target) :
    givesWay rows source target now a = false := by
  simp [givesWay, hs, ht]

theorem userId_ne_of_mem_reassign (h : source ≠ target)
    (hrow : row ∈ (reassign source target now rows).2) : row.userId ≠ source := by
  obtain ⟨a, -, -, rfl⟩ := mem_reassign.1 hrow
  rw [handed_userId]
  split
  · exact h.symm
  next hs => exact hs

theorem mem_keys_reassign {k : GrantKey} (hk : k ∈ keys (reassign source target now rows).2) :
    ∃ a ∈ rows, k = (handed source target a).key := by
  obtain ⟨row, hrow, rfl⟩ := List.mem_map.1 hk
  obtain ⟨a, ha, -, rfl⟩ := mem_reassign.1 hrow
  exact ⟨a, ha, rfl⟩

theorem key_eq_iff {a b : Assignment} :
    a.key = b.key ↔ a.userId = b.userId ∧ a.roleId = b.roleId ∧ a.scope = b.scope := by
  simp [Assignment.key]

/-- Two rows of different grants stay such when neither gives way: a row of the source and one of
the target that would become the same grant cannot both stay. -/
theorem key_handed_ne {b : Assignment} (ha : a ∈ rows) (hb : b ∈ rows)
    (hka : givesWay rows source target now a = false)
    (hkb : givesWay rows source target now b = false) (hne : a.key ≠ b.key) :
    (handed source target a).key ≠ (handed source target b).key := by
  have hexpired : ∀ {s t : Assignment}, s ∈ rows → t ∈ rows → s.userId = source →
      t.userId = target → s.roleId = t.roleId → s.scope = t.scope →
      givesWay rows source target now s = false → givesWay rows source target now t = false →
      False := by
    intro s t hs ht hus hut hrole hscope hks hkt
    cases hactive : t.isActiveAt now with
    | true =>
      have : givesWay rows source target now s = true :=
        givesWay_iff.2 (.inr ⟨hus, t, ht, hut, hrole.symm, hscope.symm, hactive⟩)
      simp [hks] at this
    | false =>
      have : givesWay rows source target now t = true :=
        givesWay_iff.2 (.inl ⟨hut, hactive, s, hs, hus, hrole, hscope⟩)
      simp [hkt] at this
  intro heq
  obtain ⟨huser, hrole, hscope⟩ := key_eq_iff.1 heq
  simp only [handed_roleId, handed_scope] at hrole hscope
  rw [handed_userId, handed_userId] at huser
  split at huser
  next hua =>
    split at huser
    next hub => exact hne (key_eq_iff.2 ⟨hua.trans hub.symm, hrole, hscope⟩)
    next hub => exact hexpired ha hb hua huser.symm hrole hscope hka hkb
  next hua =>
    split at huser
    next hub => exact hexpired hb ha hub huser hrole.symm hscope.symm hkb hka
    next hub => exact hne (key_eq_iff.2 ⟨huser, hrole, hscope⟩)

theorem nodup_keys_reassign (h : (keys rows).Nodup) :
    (keys (reassign source target now rows).2).Nodup := by
  rw [keys, List.Nodup, List.pairwise_map] at h
  rw [keys, reassign_eq, List.map_map, List.Nodup, List.pairwise_map]
  refine (h.filter _).imp_of_mem fun {a b} ha hb hne => ?_
  rw [List.mem_filter, Bool.not_eq_true'] at ha hb
  exact key_handed_ne ha.1 hb.1 ha.2 hb.2 hne

/-- **A move leaves the rows of everybody else alone.** -/
theorem filter_reassign {p : String → Bool} (hs : p source = false) (ht : p target = false)
    (rows : List Assignment) :
    (reassign source target now rows).2.filter (fun row => p row.userId) =
      rows.filter fun row => p row.userId := by
  have hhanded : ∀ row : Assignment, p (handed source target row).userId = p row.userId := by
    intro row
    rw [handed_userId]
    split
    next h => rw [h, hs, ht]
    · rfl
  have hkept : ∀ row : Assignment, p row.userId = true →
      givesWay rows source target now row = false := by
    intro row hrow
    refine givesWay_of_ne ?_ ?_
    · rintro rfl
      simp [hs] at hrow
    · rintro rfl
      simp [ht] at hrow
  rw [reassign_eq, List.filter_map, List.filter_filter]
  have hsame : (rows.filter fun row =>
      ((fun row => p row.userId) ∘ handed source target) row &&
        !givesWay rows source target now row) = rows.filter fun row => p row.userId := by
    refine List.filter_congr fun row _ => ?_
    simp only [Function.comp, hhanded]
    cases hrow : p row.userId with
    | false => rfl
    | true => simp [hkept row hrow]
  rw [hsame]
  refine (List.map_congr_left fun row hrow => ?_).trans (List.map_id _)
  rw [List.mem_filter] at hrow
  refine handed_of_ne ?_
  rintro rfl
  simp [hs] at hrow

/-! ## What a user holds -/

/-- **Whether a user holds a role at a scope** at an instant. -/
def HoldsActive (rows : List Assignment) (user : String) (now : Moment) (roleId : String)
    (scope : Scope) : Prop :=
  ∃ row ∈ rows, row.userId = user ∧ row.roleId = roleId ∧ row.scope = scope ∧
    row.isActiveAt now = true

theorem holdsActive_cons {user roleId : String} {scope : Scope} :
    HoldsActive (row :: rows) user now roleId scope ↔
      row.key = ⟨user, roleId, scope⟩ ∧ row.isActiveAt now = true ∨
        HoldsActive rows user now roleId scope := by
  simp [HoldsActive, Assignment.key, and_assoc]

/-- **After a grant its user holds its role**, and nobody holds anything else than before. -/
theorem holdsActive_grant {user roleId : String} {scope : Scope} (ha : a.isActiveAt now = true) :
    ∀ rows : List Assignment, HoldsActive (grant now a rows).2 user now roleId scope ↔
      HoldsActive rows user now roleId scope ∨ a.key = ⟨user, roleId, scope⟩
  | [] => by simp [grant, HoldsActive, Assignment.key, ha]
  | row :: rows => by
    have ih : HoldsActive (grant now a rows).2 user now roleId scope ↔ _ :=
      holdsActive_grant ha rows
    unfold grant
    split
    next hkey =>
      split
      next hactive =>
        rw [holdsActive_cons, hkey]
        simp only [hactive, and_true]
        rw [or_comm, or_assoc, or_self]
      next hexpired =>
        have hnew : ({ row with
            expiresAt := a.expiresAt
            assignedBy := a.assignedBy
            createdAt := a.createdAt } : Assignment).isActiveAt now = true := ha
        have hsame : ({ row with
            expiresAt := a.expiresAt
            assignedBy := a.assignedBy
            createdAt := a.createdAt } : Assignment).key = a.key := hkey
        rw [holdsActive_cons, holdsActive_cons, hnew, hsame]
        simp [hexpired, or_comm]
    · change HoldsActive (row :: (grant now a rows).2) user now roleId scope ↔ _
      rw [holdsActive_cons, holdsActive_cons, ih, or_assoc]

/-- An active row that gives way does so to an active row of the target. -/
theorem holdsActive_of_givesWay (ha : a.isActiveAt now = true)
    (hgives : givesWay rows source target now a = true) :
    ∃ b ∈ rows, b.userId = target ∧ b.roleId = a.roleId ∧ b.scope = a.scope ∧
      b.isActiveAt now = true := by
  rcases givesWay_iff.1 hgives with ⟨-, hexpired, -⟩ | ⟨-, hheld⟩
  · simp [ha] at hexpired
  · exact hheld

/-- An active row of the target never gives way. -/
theorem not_givesWay_of_active (h : source ≠ target) (hu : a.userId = target)
    (ha : a.isActiveAt now = true) : givesWay rows source target now a = false := by
  rw [Bool.eq_false_iff]
  intro hgives
  rcases givesWay_iff.1 hgives with ⟨-, hexpired, -⟩ | ⟨hs, -⟩
  · simp [ha] at hexpired
  · exact h (hs.symm.trans hu)

/-- **The target of a move holds what either user held.** -/
theorem holdsActive_reassign (h : source ≠ target) {roleId : String} {scope : Scope} :
    HoldsActive (reassign source target now rows).2 target now roleId scope ↔
      HoldsActive rows target now roleId scope ∨ HoldsActive rows source now roleId scope := by
  constructor
  · rintro ⟨row, hrow, huser, hrole, hscope, hactive⟩
    obtain ⟨a, ha, -, rfl⟩ := mem_reassign.1 hrow
    rw [handed_roleId] at hrole
    rw [handed_scope] at hscope
    rw [handed_isActiveAt] at hactive
    rcases handed_userId_eq_target.1 huser with hu | hu
    · exact .inl ⟨a, ha, hu, hrole, hscope, hactive⟩
    · exact .inr ⟨a, ha, hu, hrole, hscope, hactive⟩
  · -- an active row of the target stays, and one of the source moves or gives way to such a row
    have hstays : ∀ b ∈ rows, b.userId = target → b.roleId = roleId → b.scope = scope →
        b.isActiveAt now = true →
        HoldsActive (reassign source target now rows).2 target now roleId scope := by
      intro b hb hu hrole hscope hactive
      refine ⟨b, mem_reassign.2 ⟨b, hb, not_givesWay_of_active h hu hactive, ?_⟩, hu, hrole, hscope,
        hactive⟩
      exact handed_of_ne (hu ▸ h.symm)
    rintro (⟨b, hb, hu, hrole, hscope, hactive⟩ | ⟨b, hb, hu, hrole, hscope, hactive⟩)
    · exact hstays b hb hu hrole hscope hactive
    · cases hgives : givesWay rows source target now b with
      | true =>
        obtain ⟨c, hc, huc, hrc, hsc, hac⟩ := holdsActive_of_givesWay hactive hgives
        exact hstays c hc huc (hrc.trans hrole) (hsc.trans hscope) hac
      | false =>
        refine ⟨handed source target b, mem_reassign.2 ⟨b, hb, hgives, rfl⟩, ?_, ?_, ?_, ?_⟩
        · exact handed_userId_eq_target.2 (.inr hu)
        · rw [handed_roleId, hrole]
        · rw [handed_scope, hscope]
        · rw [handed_isActiveAt, hactive]

/-! ## Nothing but hands changes -/

/-- **Rows that went from one user to another**, where two rows of one grant became one. -/
structure Rekeyed (now : Moment) (source target : String) (rows rows' : List Assignment) :
    Prop where
  /-- No row is new. -/
  comes : ∀ row' ∈ rows', ∃ row ∈ rows, row' = handed source target row
  /-- No grant is lost, and none that is active becomes expired. -/
  kept : ∀ row ∈ rows, ∃ row' ∈ rows', row'.key = (handed source target row).key ∧
    (row.isActiveAt now = true → row'.isActiveAt now = true)
  /-- Other users keep their rows. -/
  others : rows'.filter (fun row => row.userId != source && row.userId != target) =
    rows.filter fun row => row.userId != source && row.userId != target

/-- Two rows of one role and scope, each of the source or of the target, become one grant. -/
theorem key_handed_eq {b : Assignment} (ha : a.userId = target ∨ a.userId = source)
    (hb : b.userId = target ∨ b.userId = source) (hrole : b.roleId = a.roleId)
    (hscope : b.scope = a.scope) : (handed source target b).key = (handed source target a).key := by
  rw [key_eq_iff, handed_userId_eq_target.2 ha, handed_userId_eq_target.2 hb]
  simp [hrole, hscope]

/-- **A move hands rows over** and does nothing else. -/
theorem rekeyed_reassign (h : source ≠ target) (now : Moment) (rows : List Assignment) :
    Rekeyed now source target rows (reassign source target now rows).2 where
  comes row' hrow' := by
    obtain ⟨a, ha, -, hhanded⟩ := mem_reassign.1 hrow'
    exact ⟨a, ha, hhanded.symm⟩
  kept a ha := by
    have hstays : ∀ b ∈ rows, givesWay rows source target now b = false →
        (handed source target b).key = (handed source target a).key →
        (a.isActiveAt now = true → b.isActiveAt now = true) →
        ∃ row' ∈ (reassign source target now rows).2,
          row'.key = (handed source target a).key ∧
            (a.isActiveAt now = true → row'.isActiveAt now = true) :=
      fun b hb hgives hkey hactive =>
        ⟨_, mem_reassign.2 ⟨b, hb, hgives, rfl⟩, hkey, fun hact => by
          rw [handed_isActiveAt, hactive hact]⟩
    cases hgives : givesWay rows source target now a with
    | false => exact hstays a ha hgives rfl id
    | true =>
      rcases givesWay_iff.1 hgives with ⟨hu, hexpired, b, hb, hub, hrole, hscope⟩ |
        ⟨hu, b, hb, hub, hrole, hscope, hactive⟩
      · -- the row that takes the place moves, unless an active one of the target takes it in turn
        cases hgivesb : givesWay rows source target now b with
        | false =>
          exact hstays b hb hgivesb (key_handed_eq (.inl hu) (.inr hub) hrole hscope)
            (by simp [hexpired])
        | true =>
          rcases givesWay_iff.1 hgivesb with ⟨hub', -⟩ | ⟨-, c, hc, huc, hrc, hsc, hactive⟩
          · exact absurd (hub.symm.trans hub') h
          · exact hstays c hc (not_givesWay_of_active h huc hactive)
              (key_handed_eq (.inl hu) (.inl huc) (hrc.trans hrole) (hsc.trans hscope))
              (fun _ => hactive)
      · exact hstays b hb (not_givesWay_of_active h hub hactive)
          (key_handed_eq (.inr hu) (.inl hub) hrole hscope) (fun _ => hactive)
  others := filter_reassign (p := fun user => user != source && user != target) (by simp)
    (by simp) rows

end TenantGuard.Store.State
