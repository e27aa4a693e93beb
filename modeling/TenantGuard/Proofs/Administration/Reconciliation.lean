import TenantGuard.Proofs.Administration.Atomicity
import TenantGuard.Proofs.Administration.Login
import TenantGuard.Proofs.Store.Moving

/-!
# What a login settles

A login makes its user known and claims the invitation to its email address, if there is one.  Then
nothing is left to do: the next login of the same user with the same address finds the user known
and no invitation.

* `Claimable` says which invitation a login claims;
* `Reconciles` says all that a login comes to: `reconciles_known` and `reconciles_claim` are that
  without an invitation and with one, and `exists_reconciles` is that of every contents;
* `Reconciles.again`: another login changes nothing;
* `reconciled_once` is all of this for the operation in any store that nothing disturbs.
-/

namespace TenantGuard

open Store (State)
open Store.State (Moved keys)

namespace Administration

open Change (effect)

variable {stamp : Stamp} {s s' : State} {user e : String} {email : Option String} {r : Reconciled}

/-! ## The invitation that is claimed -/

/-- **The invitation that a login claims**: one to the email address that it comes with, which is
not the name of the user. -/
structure Claimable (s : State) (user : String) (email : Option String) (e : String) : Prop where
  email : email = some e
  valid : Email.isValid e = true
  ne : e ≠ user
  invited : ∃ p, s.users.find? e = some p ∧ p.isPlaceholder = true

theorem pending_eq_some_iff : pending s user email = some e ↔ Claimable s user email e := by
  constructor
  · intro h
    obtain ⟨hemail, hvalid, hne, hinvited⟩ := pending_eq_some h
    exact ⟨hemail, hvalid, hne, hinvited⟩
  · rintro ⟨rfl, hvalid, hne, p, hp, hplaceholder⟩
    simp [pending, claims, hvalid, hne, hp, hplaceholder]

theorem not_claimable_of_pending (h : pending s user email = none) :
    ¬ Claimable s user email e := by
  rw [← pending_eq_some_iff, h]
  simp

/-- A login claims one invitation at most. -/
theorem Claimable.eq {e' : String} (h : Claimable s user email e)
    (h' : Claimable s user email e') : e = e' :=
  Option.some.inj (h.email.symm.trans h'.email)

/-! ## What a login comes to -/

/-- **What a login comes to.** -/
structure Reconciles (stamp : Stamp) (user : String) (email : Option String) (r : Reconciled)
    (before after : State) : Prop where
  /-- The user has a record, which is the old one if there was one. -/
  record : after.users.find? user =
    some ((before.users.find? user).getD (.known user email stamp.now))
  userCreated : r.userCreated = true ↔ before.users.find? user = none
  /-- Of an invitation that is claimed neither the record nor a row is left. -/
  gone : ∀ e, Claimable before user email e →
    after.users.find? e = none ∧ ∀ row ∈ after.assignments, row.userId ≠ e
  /-- Its rows go to the user, and are counted. -/
  moved : ∀ e, Claimable before user email e →
    Moved stamp.now e user before.assignments after.assignments r.transferred
  /-- Where none is claimed no row changes. -/
  rows : (∀ e, ¬ Claimable before user email e) →
    after.assignments = before.assignments ∧ r.transferred = 0
  /-- All other records are as they were. -/
  others : ∀ other, other ≠ user → ¬ Claimable before user email other →
    after.users.find? other = before.users.find? other
  /-- Nothing but users and rows changes. -/
  frame : after = { before with users := after.users, assignments := after.assignments }

/-- **A login without an invitation** makes its user known. -/
theorem reconciles_known (h : ∀ e, ¬ Claimable s user email e) :
    Reconciles stamp user email ⟨!s.users.contains user, 0⟩ s
      (s.withUser (.known user email stamp.now)) where
  record := State.find?_withUser_self
  userCreated := by simp [Store.Table.contains]
  gone e he := absurd he (h e)
  moved e he := absurd he (h e)
  rows _ := ⟨State.withUser_assignments, rfl⟩
  others other hne _ := State.find?_withUser_of_ne hne
  frame := State.frame_of_tree (by simp) (by simp) (by simp) (by simp) (by simp)

/-- **A login that claims an invitation** hands its rows over and removes it. -/
theorem reconciles_claim (h : Claimable s user email e) :
    Reconciles stamp user email
      ⟨!s.users.contains user, (State.reassign e user stamp.now s.assignments).1⟩ s
      ((s.withUser (.known user email stamp.now)).handedOver stamp.now e user) := by
  have hrows : ((s.withUser (.known user email stamp.now)).handedOver stamp.now e user).assignments
      = (State.reassign e user stamp.now s.assignments).2 := by
    rw [State.assignments_handedOver h.ne, State.withUser_assignments]
  have hmoved := State.moved_reassign h.ne stamp.now s.assignments
  rw [← hrows] at hmoved
  refine
    { record := ?_
      userCreated := by simp [Store.Table.contains]
      gone := fun e' he' => ?_
      moved := fun e' he' => he'.eq h ▸ hmoved
      rows := fun hnone => absurd h (hnone e)
      others := fun other hne hother => ?_
      frame := State.frame_of_tree (by simp) (by simp) (by simp) (by simp) (by simp) }
  · rw [State.find?_handedOver, if_neg h.ne.symm]
    exact State.find?_withUser_self
  · rw [he'.eq h, State.find?_handedOver, if_pos rfl]
    exact ⟨rfl, hmoved.gone⟩
  · have hsource : other ≠ e := by
      rintro rfl
      exact hother h
    rw [State.find?_handedOver, if_neg hsource, State.find?_withUser_of_ne hne]

/-- **Every login comes to that**, whatever the contents are. -/
theorem exists_reconciles (stamp : Stamp) (user : String) (email : Option String) (s : State) :
    ∃ (r : Reconciled) (s' : State),
      (Command.reconcileLogin user email).effectOn stamp s = .ok (r, s') ∧
      Reconciles stamp user email r s s' := by
  change ∃ r s', effect stamp.now (reconcileLogin stamp.now user email) s = .ok (r, s') ∧ _
  rw [effect_reconcileLogin]
  cases hpending : pending s user email with
  | none => exact ⟨_, _, rfl, reconciles_known fun e => not_claimable_of_pending hpending⟩
  | some e => exact ⟨_, _, rfl, reconciles_claim (pending_eq_some_iff.1 hpending)⟩

/-! ## Another login -/

/-- A login leaves no invitation that the user could claim. -/
theorem Reconciles.pending_eq_none (h : Reconciles stamp user email r s s') :
    pending s' user email = none := by
  rw [Option.eq_none_iff_forall_ne_some]
  intro e hpending
  obtain ⟨hemail, hvalid, hne, p, hp, hplaceholder⟩ := pending_eq_some hpending
  by_cases hclaimed : Claimable s user email e
  · cases (h.gone e hclaimed).1.symm.trans hp
  · have hp' : s.users.find? e = some p := (h.others e hne hclaimed).symm.trans hp
    exact hclaimed ⟨hemail, hvalid, hne, p, hp', hplaceholder⟩

/-- **Another login changes nothing.** -/
theorem Reconciles.again (h : Reconciles stamp user email r s s') (again : Stamp) :
    (Command.reconcileLogin user email).effectOn again s' = .ok (⟨false, 0⟩, s') := by
  have huser : s'.users.contains user = true := by
    rw [Store.Table.contains, h.record]
    rfl
  have hsame : s'.withUser (.known user email again.now) = s' := State.withUser_of_contains huser
  change effect again.now (reconcileLogin again.now user email) s' = _
  rw [effect_reconcileLogin, h.pending_eq_none, hsame, huser]
  rfl

/-- **A login settles all there is to settle.**  In any store that nothing disturbs it succeeds: its
user has a record, and the invitation to its address is gone with all its rows, while all else is as
it was.  Another login with the same name and address, at whatever time, changes nothing. -/
theorem reconciled_once {before : Store} {τ : Type} {pace : Pace τ} (hcalm : Calm pace before)
    (stamp : Stamp) (user : String) (email : Option String) (t : τ) :
    let run (stamp : Stamp) (s : Store) (t : τ) :=
      (Command.reconcileLogin user email).run stamp pace (s, t)
    ∃ (r : Reconciled) (after : State),
      (run stamp before t).1 = .ok r ∧
      (run stamp before t).2.1 = { before with committed := after } ∧
      Reconciles stamp user email r before.committed after ∧
      ∀ (again : Stamp) (t' : τ),
        (run again { before with committed := after } t').1 = .ok ⟨false, 0⟩ ∧
        (run again { before with committed := after } t').2.1 =
          { before with committed := after } := by
  intro run
  obtain ⟨r, after, heffect, hreconciles⟩ := exists_reconciles stamp user email before.committed
  obtain ⟨hok, hafter⟩ := hcalm.run_of_ok heffect t
  exact ⟨r, after, hok, hafter, hreconciles, fun again t' =>
    (hcalm.withCommitted after).run_of_ok (hreconciles.again again) t'⟩

/-- Bob logs in twice with the address that was invited: the first login claims the invitation, and
the second finds nothing to do. -/
theorem reconciled_once_invited :
    let run (stamp : Stamp) (s : Store) :=
      (Command.reconcileLogin "bob" (some "bob@example.com")).run stamp ({} : Limits).pace (s, 0)
    Calm ({} : Limits).pace invitedStore ∧
      Claimable invitedStore.committed "bob" (some "bob@example.com") "bob@example.com" ∧
      ∃ after, (run ⟨⟨2, 0⟩, "", ""⟩ invitedStore).1 = .ok ⟨true, 1⟩ ∧
        Reconciles ⟨⟨2, 0⟩, "", ""⟩ "bob" (some "bob@example.com") ⟨true, 1⟩ invitedStore.committed
          after ∧
        keys after.assignments =
          [⟨"ann", "owner", .organization "o1"⟩, ⟨"bob", "viewer", .organization "o1"⟩] ∧
        (run ⟨⟨3, 0⟩, "", ""⟩ { invitedStore with committed := after }).1 = .ok ⟨false, 0⟩ ∧
        (run ⟨⟨3, 0⟩, "", ""⟩ { invitedStore with committed := after }).2.1.committed = after := by
  intro run
  have hcalm : Calm ({} : Limits).pace invitedStore :=
    calm_unlimited managed_invitedStore.working_eq_none (by decide +kernel)
  have hclaimable : Claimable invitedStore.committed "bob" (some "bob@example.com")
      "bob@example.com" :=
    ⟨rfl, by decide +kernel, by decide, .placeholder "bob@example.com" ⟨1, 0⟩, by decide +kernel,
      rfl⟩
  obtain ⟨r, after, hok, hafter, hreconciles, hagain⟩ := reconciled_once hcalm ⟨⟨2, 0⟩, "", ""⟩
    "bob" (some "bob@example.com") (0 : Instant)
  have hr : (run ⟨⟨2, 0⟩, "", ""⟩ invitedStore).1 = .ok ⟨true, 1⟩ := rfl
  have hrows : keys (run ⟨⟨2, 0⟩, "", ""⟩ invitedStore).2.1.committed.assignments =
      [⟨"ann", "owner", .organization "o1"⟩, ⟨"bob", "viewer", .organization "o1"⟩] := by
    decide +kernel
  cases hok.symm.trans hr
  obtain ⟨hsecond, hsame⟩ := hagain ⟨⟨3, 0⟩, "", ""⟩ (0 : Instant)
  refine ⟨hcalm, hclaimable, after, hok, hreconciles, ?_, hsecond, congrArg Store.committed hsame⟩
  rw [← hrows]
  exact congrArg (fun s : Store => keys s.committed.assignments) hafter.symm

end Administration

end TenantGuard
