import TenantGuard.Administration
import TenantGuard.Proofs.Transaction

/-!
# The operations of an administrator

The operations that change the store, as one type, so that something can be said of all of them.

* `Command.body` is what an operation does once it is accepted, `Command.run` runs it against a
  store at a pace;
* `Command.failsFast`: no operation goes on after a fault.
-/

namespace TenantGuard

open Store (State Operation)

namespace Administration

/-- **An operation of an administrator**, with what it is given. -/
inductive Command where
  | createOrganization (name owner : String)
  | createProject (organizationId name : String) (description : Option String) (owner : String)
  | createResource (projectId name kind : String)
  | assignRole (request : GrantRequest)
  | revokeRole (userId roleName : String) (scope : Scope)
  | transferPlaceholder (email userId : String)
  | reconcileLogin (userId : String) (email : Option String)

namespace Command

/-- The type of the answer. -/
def Answer : Command → Type
  | createOrganization _ _ => Organization
  | createProject _ _ _ _ => Project
  | createResource _ _ _ => Resource
  | assignRole _ => Granted
  | revokeRole _ _ _ => Bool
  | transferPlaceholder _ _ => Nat
  | reconcileLogin _ _ => Reconciled

/-- **The transaction of an operation**, or why it is not accepted. -/
def body (stamp : Stamp) : (c : Command) → Except Fault (Change c.Answer)
  | createOrganization name owner => Administration.createOrganization stamp name owner
  | createProject organizationId name description owner =>
    Administration.createProject stamp organizationId name description owner
  | createResource projectId name kind => Administration.createResource stamp projectId name kind
  | assignRole request => Administration.assignRole stamp request
  | revokeRole userId roleName scope => .ok (Administration.revokeRole userId roleName scope)
  | transferPlaceholder email userId => Administration.transferPlaceholder stamp.now email userId
  | reconcileLogin userId email => .ok (Administration.reconcileLogin stamp.now userId email)

/-- **Runs an operation.** -/
def run {τ : Type} (c : Command) (stamp : Stamp) (pace : Pace τ) (x : Store × τ) :
    Except Fault c.Answer × Store × τ :=
  Store.transactIfValidAt pace stamp.now (c.body stamp) x

end Command

/-! ## No operation goes on after a fault -/

open Procedure (FailsFast failsFast_pure failsFast_throw failsFast_throw_bind failsFast_ask)

theorem failsFast_requireRole (name : String) : FailsFast (requireRole name) := by
  refine (failsFast_ask _).bind fun role => ?_
  cases role with
  | some role => exact failsFast_pure _
  | none => exact failsFast_throw _

theorem failsFast_grantOwner (stamp : Stamp) (owner : String) (scope : Scope) :
    FailsFast (grantOwner stamp owner scope) := by
  refine (failsFast_ask _).bind fun _ => (failsFast_requireRole _).bind fun role => ?_
  exact (failsFast_ask _).bind fun _ => failsFast_pure _

theorem failsFast_requireUser (now : Moment) (userId : String) :
    FailsFast (requireUser now userId) := by
  refine (failsFast_ask _).bind fun user => ?_
  cases user with
  | some user => exact failsFast_pure _
  | none =>
    simp only
    split
    · exact failsFast_ask _
    · exact failsFast_throw _

theorem failsFast_movePlaceholder (placeholder user : String) :
    FailsFast (movePlaceholder placeholder user) :=
  (failsFast_ask _).bind fun _ => (failsFast_ask _).bind fun _ => failsFast_pure _

theorem failsFast_revokeRole (userId roleName : String) (scope : Scope) :
    FailsFast (revokeRole userId roleName scope) :=
  (failsFast_requireRole _).bind fun _ => failsFast_ask _

theorem failsFast_reconcileLogin (now : Moment) (userId : String) (email : Option String) :
    FailsFast (reconcileLogin now userId email) := by
  refine (failsFast_ask _).bind fun userCreated => ?_
  split
  · exact failsFast_pure _
  · refine (failsFast_ask _).bind fun pending => ?_
    split
    · exact (failsFast_movePlaceholder _ _).bind fun _ => failsFast_pure _
    · exact failsFast_pure _

/-- **No operation goes on after a fault.** -/
theorem Command.failsFast {c : Command} {stamp : Stamp} {body : Change c.Answer}
    (h : c.body stamp = .ok body) : FailsFast body := by
  cases c with
  | createOrganization name owner =>
    obtain ⟨name, -, h⟩ := bind_eq_ok.1 h
    cases h
    exact (failsFast_ask _).bind fun _ => (failsFast_grantOwner _ _ _).bind fun _ =>
      failsFast_pure _
  | createProject organizationId name description owner =>
    obtain ⟨name, -, h⟩ := bind_eq_ok.1 h
    cases h
    exact (failsFast_ask _).bind fun _ => (failsFast_grantOwner _ _ _).bind fun _ =>
      failsFast_pure _
  | createResource projectId name kind =>
    obtain ⟨kind, -, h⟩ := bind_eq_ok.1 h
    obtain ⟨name, -, h⟩ := bind_eq_ok.1 h
    cases h
    exact (failsFast_ask _).bind fun _ => failsFast_pure _
  | assignRole request =>
    obtain ⟨_, -, h⟩ := bind_eq_ok.1 h
    cases h
    refine (failsFast_requireRole _).bind fun role => (failsFast_ask _).bind fun found => ?_
    cases found with
    | false => exact failsFast_throw_bind _ _
    | true =>
      exact (failsFast_requireUser _ _).bind fun _ => (failsFast_ask _).bind fun _ =>
        failsFast_pure _
  | revokeRole userId roleName scope =>
    cases h
    exact failsFast_revokeRole userId roleName scope
  | transferPlaceholder email userId =>
    simp only [Command.body, Administration.transferPlaceholder] at h
    split at h
    · cases h
    cases h
    refine (failsFast_ask _).bind fun user => ?_
    have hmove : FailsFast (do
        let _ ← Change.insertUser (.known userId (some email) stamp.now)
        movePlaceholder email userId) :=
      (failsFast_ask _).bind fun _ => failsFast_movePlaceholder _ _
    cases user with
    | none => exact failsFast_throw_bind _ _
    | some u =>
      simp only
      split
      · exact failsFast_throw_bind _ _
      · exact hmove
  | reconcileLogin userId email =>
    cases h
    exact failsFast_reconcileLogin stamp.now userId email

end Administration

end TenantGuard
