import TenantGuard.Proofs.Administration.Invitation

/-!
# Who has logged in

A login makes a user known, unless an invitation is kept under the very name of the user: then the
invitation stays.  The record of a known user is never touched again, and nobody else comes by the
grants that go with it, since only invitations can be claimed.

* `State.KeepsUsers` says that the known users stay, `Command.keepsUsers_effect` that every
  operation does that, and `Later.keepsUsers` that every sequence of operations does;
* `Command.rows_effect`: claims by others leave the rows of a known user alone;
* `Recorded` is what a login leaves of a user's record, and `recorded_of_ok` that every login that
  succeeds leaves that.
-/

namespace TenantGuard

open Store (State)
open Store.State (keys)

/-! ## Known users -/

namespace Store.State

/-- **Known users stay** as they are. -/
def KeepsUsers (s s' : State) : Prop :=
  ∀ ⦃id : String⦄ ⦃u : User⦄, s.users.find? id = some u → u.isPlaceholder = false →
    s'.users.find? id = some u

variable {s s' s'' : State} {u : User} {id source target : String} {now : Moment}

theorem KeepsUsers.refl (s : State) : s.KeepsUsers s := fun _ _ h _ => h

theorem KeepsUsers.trans (h : s.KeepsUsers s') (h' : s'.KeepsUsers s'') : s.KeepsUsers s'' :=
  fun _ _ hu hknown => h' (h hu hknown) hknown

/-- Who comes in takes nobody's place. -/
theorem keepsUsers_withUser (s : State) (u : User) : s.KeepsUsers (s.withUser u) := by
  intro id v hv _
  rw [find?_withUser, hv]
  split
  · rfl
  · rfl

/-- Somebody who is known is not the one who was invited. -/
theorem ne_of_known {p : User} (hu : s.users.find? id = some u) (hknown : u.isPlaceholder = false)
    (hp : s.users.find? source = some p) (hplaceholder : p.isPlaceholder = true) : id ≠ source := by
  rintro rfl
  cases hu.symm.trans hp
  rw [hknown] at hplaceholder
  cases hplaceholder

/-- **A claim removes an invitation**, and no known user. -/
theorem keepsUsers_claimed {p : User} (hp : s.users.find? source = some p)
    (hplaceholder : p.isPlaceholder = true) (u : User) (now : Moment) (target : String) :
    s.KeepsUsers ((s.withUser u).handedOver now source target) := by
  intro id v hv hknown
  rw [find?_handedOver, if_neg (ne_of_known hv hknown hp hplaceholder)]
  exact keepsUsers_withUser s u hv hknown

end Store.State

namespace Administration

open Change (effect)

variable {stamp : Stamp} {now : Moment} {s s' : State} {user : String} {u : User}

/-! ## One operation -/

/-- An owner takes nobody's place. -/
theorem keepsUsers_withOwner {mid : State} (h : mid.users = s.users) {owner : String} {role : Role}
    {scope : Scope} : s.KeepsUsers (withOwner stamp now owner role scope mid) := by
  intro id v hv hknown
  rw [← h] at hv
  exact State.keepsUsers_withUser mid _ hv hknown

/-- **No operation touches a known user.** -/
theorem Command.keepsUsers_effect {c : Command} {body : Change c.Answer} {a : c.Answer}
    (hbody : c.body stamp = .ok body) (h : effect now body s = .ok (a, s')) : s.KeepsUsers s' := by
  -- of all writes, two concern users: one adds where nobody is, one removes who was invited
  cases c with
  | createOrganization name owner =>
    obtain ⟨role, -, -, rfl, rfl⟩ := createOrganization_eq_ok hbody h
    refine keepsUsers_withOwner ?_
    rfl
  | createProject organizationId name description owner =>
    obtain ⟨role, -, -, -, rfl, rfl⟩ := createProject_eq_ok hbody h
    refine keepsUsers_withOwner ?_
    rfl
  | createResource projectId name kind =>
    obtain ⟨-, -, -, rfl, rfl⟩ := createResource_eq_ok hbody h
    exact State.KeepsUsers.refl s
  | assignRole request =>
    obtain ⟨role, -, -, -, -, -, rfl⟩ := assignRole_eq_ok hbody h
    exact State.keepsUsers_withUser s _
  | revokeRole userId roleName scope =>
    cases hbody
    obtain ⟨role, -, rfl⟩ := revokeRole_eq_ok h
    exact State.KeepsUsers.refl s
  | transferPlaceholder email userId =>
    obtain ⟨-, ⟨p, hp, hplaceholder⟩, rfl⟩ := transferPlaceholder_eq_ok hbody h
    exact State.keepsUsers_claimed hp hplaceholder _ now userId
  | reconcileLogin userId email =>
    cases hbody
    cases reconcileLogin_eq_ok h
    split
    · exact State.keepsUsers_withUser s _
    next e hpending =>
      obtain ⟨-, -, -, p, hp, hplaceholder⟩ := pending_eq_some hpending
      exact State.keepsUsers_claimed hp hplaceholder _ now userId

/-- **Who claims invitations** by an operation. -/
def Command.claimant? : Command → Option String
  | transferPlaceholder _ userId => some userId
  | reconcileLogin userId _ => some userId
  | _ => none

/-- **A claim by somebody else** leaves the rows of a known user alone. -/
theorem Command.rows_effect {c : Command} {body : Change c.Answer} {a : c.Answer}
    (hbody : c.body stamp = .ok body) (h : effect now body s = .ok (a, s'))
    (hu : s.users.find? user = some u) (hknown : u.isPlaceholder = false) {claimant : String}
    (hc : c.claimant? = some claimant) (hother : claimant ≠ user) :
    s'.assignments.filter (·.userId == user) = s.assignments.filter (·.userId == user) := by
  cases c with
  | transferPlaceholder email userId =>
    cases hc
    obtain ⟨hne, ⟨p, hp, hplaceholder⟩, rfl⟩ := transferPlaceholder_eq_ok hbody h
    have hsource := State.ne_of_known hu hknown hp hplaceholder
    rw [State.filter_handedOver hne hsource hother.symm, State.withUser_assignments]
  | reconcileLogin userId email =>
    cases hc
    cases hbody
    cases reconcileLogin_eq_ok h
    split
    · rw [State.withUser_assignments]
    next e hpending =>
      obtain ⟨-, -, hne, p, hp, hplaceholder⟩ := pending_eq_some hpending
      have hsource := State.ne_of_known hu hknown hp hplaceholder
      rw [State.filter_handedOver hne hsource hother.symm, State.withUser_assignments]
  | _ => cases hc

/-- **A login keeps the record of its user**, or adds one. -/
theorem find?_reconcileLogin {email : Option String} {r : Reconciled}
    (h : effect now (reconcileLogin stamp.now user email) s = .ok (r, s')) :
    s'.users.find? user =
      some ((s.users.find? user).getD (.known user email stamp.now)) := by
  have hrecord : (s.withUser (.known user email stamp.now)).users.find? user =
      some ((s.users.find? user).getD (.known user email stamp.now)) := State.find?_withUser_self
  cases reconcileLogin_eq_ok h
  split
  · exact hrecord
  next e hpending =>
    have hne : user ≠ e := (pending_eq_some hpending).2.2.1.symm
    rw [State.find?_handedOver, if_neg hne, hrecord]

/-! ## Whole runs -/

/-- **The stores that operations lead to** from a store, as `Managed` are those from a fresh one. -/
inductive Later (s : Store) : Store → Prop where
  | refl : Later s s
  | armed {t : Store} (failing : List Store.FailPoint) : Later s t → Later s { t with failing }
  | delayed {t : Store} (latency : Nat) : Later s t → Later s { t with latency }
  | operated {t : Store} {τ : Type} (c : Command) (stamp : Stamp) (now : Moment) (pace : Pace τ)
      (x : τ) : Later s t →
      Later s (Store.transactIfValidAt pace now (c.body stamp) (t, x)).2.1

/-- The contents behind an operation are those of its effect, or as they were. -/
theorem Command.committed_transact {τ : Type} (c : Command) (stamp : Stamp) (now : Moment)
    (pace : Pace τ) (x : Store × τ) :
    (∃ body a, c.body stamp = .ok body ∧ effect now body x.1.committed =
      .ok (a, (Store.transactIfValidAt pace now (c.body stamp) x).2.1.committed)) ∨
    (Store.transactIfValidAt pace now (c.body stamp) x).2.1.committed = x.1.committed := by
  rcases Command.transact_cases c stamp now pace x with
    ⟨body, a, s', hbody, -, -, heffect, hs⟩ | ⟨e, -, hs⟩
  · rw [hs]
    exact .inl ⟨body, a, hbody, heffect⟩
  · rw [hs]
    exact .inr rfl

/-- **Known users stay** whatever is done. -/
theorem Later.keepsUsers {before after : Store} (h : Later before after) :
    before.committed.KeepsUsers after.committed := by
  induction h with
  | refl => exact State.KeepsUsers.refl _
  | armed failing _ ih => exact ih
  | delayed latency _ ih => exact ih
  | @operated t τ c stamp now pace x _ ih =>
    rcases c.committed_transact stamp now pace (t, x) with ⟨body, a, hbody, heffect⟩ | hs
    · exact State.KeepsUsers.trans ih (Command.keepsUsers_effect hbody heffect)
    · rw [hs]
      exact ih

/-- **A user who is known for good** in a store: the record is there, and no claim by somebody else
takes a row that goes with it. -/
structure Settled (user : String) (u : User) (s : Store) : Prop where
  record : s.committed.users.find? user = some u
  rows : ∀ {c : Command} {claimant : String}, c.claimant? = some claimant → claimant ≠ user →
    ∀ (stamp : Stamp) (now : Moment) {τ : Type} (pace : Pace τ) (t : τ),
      (Store.transactIfValidAt pace now (c.body stamp) (s, t)).2.1.committed.assignments.filter
        (·.userId == user) = s.committed.assignments.filter (·.userId == user)

theorem settled_of_known {s : Store} (hu : s.committed.users.find? user = some u)
    (hknown : u.isPlaceholder = false) : Settled user u s where
  record := hu
  rows {c claimant} hc hother stamp now τ pace t := by
    rcases c.committed_transact stamp now pace (s, t) with ⟨body, a, hbody, heffect⟩ | hs
    · exact Command.rows_effect hbody heffect hu hknown hc hother
    · rw [hs]

/-- **What a login leaves of the record of its user.** -/
structure Recorded (user : String) (u : User) (before after : Store) : Prop where
  found : after.committed.users.find? user = some u
  /-- It is an invitation just if there was one before. -/
  invited : u.isPlaceholder = true ↔
    ∃ p, before.committed.users.find? user = some p ∧ p.isPlaceholder = true
  /-- Only an email address can have one. -/
  address : u.isPlaceholder = true → Email.isValid user = true
  /-- If it is none, the user is known for good. -/
  settled : u.isPlaceholder = false → ∀ {later : Store}, Later after later → Settled user u later

/-- **Every login that succeeds makes its user known for good**, but for a user who was invited
under the very name of the login: the invitation stays one. -/
theorem recorded_of_ok {before : Store} (hs : Managed before) (stamp : Stamp) (user : String)
    (email : Option String) {τ : Type} (pace : Pace τ) (t : τ) {r : Reconciled}
    (hok : ((Command.reconcileLogin user email).run stamp pace (before, t)).1 = .ok r) :
    ∃ u, Recorded user u before
      ((Command.reconcileLogin user email).run stamp pace (before, t)).2.1 := by
  have hrun : (Command.reconcileLogin user email).run stamp pace (before, t) =
    (.ok r, ((Command.reconcileLogin user email).run stamp pace (before, t)).2) := by
    rw [← hok]
  generalize ((Command.reconcileLogin user email).run stamp pace (before, t)).2 = x at hrun ⊢
  obtain ⟨after, t'⟩ := x
  obtain ⟨hintact, body, hbody, heffect⟩ := hs.effect_of_run hrun
  cases hbody
  have hfound := find?_reconcileLogin heffect
  refine ⟨_, hfound, ?_, fun hplaceholder => ((hintact.user hfound).invited hplaceholder).1,
    fun hknown later hlater => settled_of_known (hlater.keepsUsers hfound hknown) hknown⟩
  cases before.committed.users.find? user with
  | none => simp [User.known]
  | some p => simp

/-- Eve goes by an address and logs in before she is invited: what is granted to her later stays
hers, and another login with that address gets nothing of it. -/
theorem recorded_of_ok_known :
    let login := (Command.reconcileLogin "eve@example.com" none).run ⟨⟨2, 0⟩, "", ""⟩
      ({} : Limits).pace (invitedStore, 0)
    let granted := (Command.assignRole ⟨"eve@example.com", "viewer", .organization "o1", some "ann",
      none⟩).after ⟨⟨3, 0⟩, "", "a3"⟩ login.2.1
    let claimed := (Command.reconcileLogin "eve" (some "eve@example.com")).after ⟨⟨4, 0⟩, "", ""⟩
      granted
    login.1 = .ok ⟨true, 0⟩ ∧
      (∃ u, Recorded "eve@example.com" u invitedStore login.2.1 ∧ u.isPlaceholder = false ∧
        Settled "eve@example.com" u claimed) ∧
      keys (claimed.committed.assignments.filter (·.userId == "eve@example.com")) =
        [⟨"eve@example.com", "viewer", .organization "o1"⟩] := by
  have hok : ((Command.reconcileLogin "eve@example.com" none).run ⟨⟨2, 0⟩, "", ""⟩
      ({} : Limits).pace (invitedStore, 0)).1 = .ok ⟨true, 0⟩ := rfl
  obtain ⟨u, hu⟩ := recorded_of_ok managed_invitedStore ⟨⟨2, 0⟩, "", ""⟩ "eve@example.com" none
    ({} : Limits).pace 0 hok
  have hunknown : invitedStore.committed.users.find? "eve@example.com" = none := by decide +kernel
  have hknown : u.isPlaceholder = false := by
    rw [Bool.eq_false_iff]
    intro hplaceholder
    obtain ⟨p, hp, -⟩ := hu.invited.1 hplaceholder
    cases hunknown.symm.trans hp
  exact ⟨hok, ⟨u, hu, hknown, hu.settled hknown (.operated _ _ _ _ _ (.operated _ _ _ _ _ .refl))⟩,
    by decide +kernel⟩

/-- Bob goes by the address that was invited and logs in: the invitation stays one, and another
login with that address takes his grant and removes his record. -/
theorem login_leaves_invitation :
    let login := (Command.reconcileLogin "bob@example.com" none).run ⟨⟨2, 0⟩, "", ""⟩
      ({} : Limits).pace (invitedStore, 0)
    let claimed := (Command.reconcileLogin "bob" (some "bob@example.com")).after ⟨⟨3, 0⟩, "", ""⟩
      login.2.1
    Managed invitedStore ∧ login.1 = .ok ⟨false, 0⟩ ∧
      (login.2.1.committed.users.find? "bob@example.com").map (·.isPlaceholder) = some true ∧
      claimed.committed.users.find? "bob@example.com" = none ∧
      keys claimed.committed.assignments =
        [⟨"ann", "owner", .organization "o1"⟩, ⟨"bob", "viewer", .organization "o1"⟩] :=
  ⟨managed_invitedStore, rfl, by decide +kernel, by decide +kernel, by decide +kernel⟩

end Administration

end TenantGuard
