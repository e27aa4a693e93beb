import TenantGuard.Proofs.Administration.Command
import TenantGuard.Proofs.Store.Rows

/-!
# What operations find and leave behind

An operation that succeeds has found what it asks for, and there is one thing that it leaves behind.

* `State.withUser`, `withGrant`, `withoutGrant` and `handedOver` are the contents after each kind of
  write, `Administration.withOwner` those after a new scope was given its owner;
* `IsName` and `IsKind` are the names and kinds that are stored;
* `effect_requireUser` and its likes say what the parts of operations do, `effect_reconcileLogin`
  what a login does;
* `createOrganization_eq_ok` and its likes say, for each operation, all that a success means.
-/

namespace TenantGuard

open Store (State Operation GrantOutcome)

/-! ## The contents after a write -/

namespace Store.State

/-- The contents with a user, who may have been there already. -/
def withUser (s : State) (u : User) : State := (s.insertUser u).2

/-- The contents with a grant. -/
def withGrant (s : State) (now : Moment) (a : Assignment) : State :=
  { s with assignments := (grant now a s.assignments).2 }

/-- The contents without a grant. -/
def withoutGrant (s : State) (key : GrantKey) : State :=
  { s with assignments := revoke key s.assignments }

/-- **The contents after a user's rows went to another user** and the user was removed. -/
def handedOver (s : State) (now : Moment) (source target : String) : State :=
  (deleteUser { s with assignments := (reassign source target now s.assignments).2 } source).2

variable {s : State} {u : User} {now : Moment} {source target : String}

/-- Contents that agree in all but the users and the rows. -/
theorem frame_of_tree {s' : State} (ho : s'.organizations = s.organizations)
    (hp : s'.projects = s.projects) (hr : s'.resources = s.resources) (hroles : s'.roles = s.roles)
    (hpermissions : s'.rolePermissions = s.rolePermissions) :
    s' = { s with users := s'.users, assignments := s'.assignments } := by
  rw [← ho, ← hp, ← hr, ← hroles, ← hpermissions]

@[simp] theorem withUser_organizations : (s.withUser u).organizations = s.organizations := by
  unfold withUser insertUser
  split <;> rfl

@[simp] theorem withUser_projects : (s.withUser u).projects = s.projects := by
  unfold withUser insertUser
  split <;> rfl

@[simp] theorem withUser_resources : (s.withUser u).resources = s.resources := by
  unfold withUser insertUser
  split <;> rfl

@[simp] theorem withUser_roles : (s.withUser u).roles = s.roles := by
  unfold withUser insertUser
  split <;> rfl

@[simp] theorem withUser_rolePermissions :
    (s.withUser u).rolePermissions = s.rolePermissions := by
  unfold withUser insertUser
  split <;> rfl

@[simp] theorem withUser_assignments : (s.withUser u).assignments = s.assignments := by
  unfold withUser insertUser
  split <;> rfl

/-- Who is there stays as they are. -/
theorem withUser_of_contains (h : s.users.contains u.id = true) : s.withUser u = s := by
  rw [withUser, insertUser, if_pos h]

theorem insertUser_eq (s : State) (u : User) :
    s.insertUser u = (!s.users.contains u.id, s.withUser u) := by
  unfold withUser insertUser
  split
  next h => simp [h]
  next h => simp [h]

/-- The new user comes in where nobody was. -/
theorem find?_withUser (id : String) :
    (s.withUser u).users.find? id =
      if id = u.id then some ((s.users.find? id).getD u) else s.users.find? id := by
  cases hold : s.users.find? u.id with
  | some v =>
    rw [withUser_of_contains (by simp [Table.contains, hold])]
    split
    next h => rw [h, hold, Option.getD_some]
    · rfl
  | none =>
    rw [withUser, insertUser, if_neg (by simp [Table.contains, hold]), Table.find?_insert]
    split
    next h => rw [h, hold, Option.getD_none]
    · rfl

theorem find?_withUser_self :
    (s.withUser u).users.find? u.id = some ((s.users.find? u.id).getD u) := by
  rw [find?_withUser, if_pos rfl]

theorem find?_withUser_of_ne {id : String} (h : id ≠ u.id) :
    (s.withUser u).users.find? id = s.users.find? id := by
  rw [find?_withUser, if_neg h]

theorem contains_withUser (id : String) :
    (s.withUser u).users.contains id = (decide (id = u.id) || s.users.contains id) := by
  unfold Table.contains
  rw [find?_withUser]
  by_cases h : id = u.id <;> simp [h]

/-! ### Handing over -/

@[simp] theorem handedOver_organizations :
    (s.handedOver now source target).organizations = s.organizations := by
  unfold handedOver deleteUser
  split <;> rfl

@[simp] theorem handedOver_projects :
    (s.handedOver now source target).projects = s.projects := by
  unfold handedOver deleteUser
  split <;> rfl

@[simp] theorem handedOver_resources :
    (s.handedOver now source target).resources = s.resources := by
  unfold handedOver deleteUser
  split <;> rfl

@[simp] theorem handedOver_roles : (s.handedOver now source target).roles = s.roles := by
  unfold handedOver deleteUser
  split <;> rfl

@[simp] theorem handedOver_rolePermissions :
    (s.handedOver now source target).rolePermissions = s.rolePermissions := by
  unfold handedOver deleteUser
  split <;> rfl

/-- Nobody but the source is removed. -/
theorem find?_handedOver (id : String) :
    (s.handedOver now source target).users.find? id =
      if id = source then none else s.users.find? id := by
  unfold handedOver deleteUser
  split
  · simp
  next h =>
    by_cases hid : id = source
    · rw [Bool.not_eq_true, Table.contains, Option.isSome_eq_false_iff,
        Option.isNone_iff_eq_none] at h
      simp [hid, h]
    · simp [hid]

theorem contains_handedOver (id : String) :
    (s.handedOver now source target).users.contains id =
      (decide (id ≠ source) && s.users.contains id) := by
  unfold Table.contains
  rw [find?_handedOver]
  by_cases h : id = source <;> simp [h]

/-- **The rows after a hand-over** are those after the move: none is left that goes with the
source. -/
theorem assignments_handedOver (h : source ≠ target) :
    (s.handedOver now source target).assignments =
      (reassign source target now s.assignments).2 := by
  unfold handedOver deleteUser
  split
  · refine List.filter_eq_self.2 fun row hrow => ?_
    simpa using userId_ne_of_mem_reassign h hrow
  · rfl

end Store.State

namespace Administration

open Change (effect effect_ask effect_bind_of_ok effect_bind_eq_ok apply_of_effect)

/-! ## What is stored -/

/-- **A name that can be stored.** -/
structure IsName (name : String) : Prop where
  trimmed : Text.trimmed name = name
  nonempty : name ≠ ""
  length_le : name.length ≤ 200

/-- **A kind that can be stored.** -/
structure IsKind (kind : String) : Prop where
  trimmed : Text.trimmed kind = kind
  nonempty : kind ≠ ""

theorem validateName_eq_ok {name name' : String} (h : validateName name = .ok name') :
    name' = Text.trimmed name ∧ IsName name' := by
  unfold validateName at h
  simp only at h
  split at h
  · cases h
  next hempty =>
  split at h
  · cases h
  next hlength =>
  cases h
  exact ⟨rfl, Text.trimmed_trimmed name, by simpa using hempty, Nat.le_of_not_lt hlength⟩

theorem validateKind_eq_ok {kind kind' : String} (h : validateKind kind = .ok kind') :
    kind' = Text.trimmed kind ∧ IsKind kind' := by
  unfold validateKind at h
  simp only at h
  split at h
  · cases h
  next hempty =>
  cases h
  exact ⟨rfl, Text.trimmed_trimmed kind, by simpa using hempty⟩

/-- The row that makes a user the owner of a scope. -/
def ownerRow (stamp : Stamp) (owner : String) (role : Role) (scope : Scope) : Assignment :=
  { id := stamp.assignmentId, userId := owner, roleId := role.id, scope, assignedBy := some owner
    createdAt := stamp.now, expiresAt := none }

/-- **The contents after a user became the owner of a scope.** -/
def withOwner (stamp : Stamp) (now : Moment) (owner : String) (role : Role) (scope : Scope)
    (s : State) : State :=
  (s.withUser (.known owner none stamp.now)).withGrant now (ownerRow stamp owner role scope)

variable {stamp : Stamp} {now : Moment} {s s' : State}

section Owner

variable {owner : String} {role : Role} {scope : Scope}

@[simp] theorem withOwner_organizations :
    (withOwner stamp now owner role scope s).organizations = s.organizations :=
  State.withUser_organizations

@[simp] theorem withOwner_projects :
    (withOwner stamp now owner role scope s).projects = s.projects := State.withUser_projects

@[simp] theorem withOwner_resources :
    (withOwner stamp now owner role scope s).resources = s.resources := State.withUser_resources

@[simp] theorem withOwner_rolePermissions :
    (withOwner stamp now owner role scope s).rolePermissions = s.rolePermissions :=
  State.withUser_rolePermissions

theorem withOwner_assignments : (withOwner stamp now owner role scope s).assignments =
    (State.grant now (ownerRow stamp owner role scope) s.assignments).2 := by
  rw [withOwner, State.withGrant, State.withUser_assignments]

end Owner

/-! ## Parts of operations -/

theorem effect_roleNamed (name : String) :
    effect now (Change.roleNamed name) s = .ok (s.roleNamed? name, s) := effect_ask _

theorem effect_findUser (id : String) :
    effect now (Change.findUser id) s = .ok (s.users.find? id, s) := effect_ask _

theorem effect_scopeExists (scope : Scope) :
    effect now (Change.scopeExists scope) s = .ok (s.hasScope scope, s) := effect_ask _

theorem effect_insertUser (u : User) :
    effect now (Change.insertUser u) s = .ok (!s.users.contains u.id, s.withUser u) :=
  (effect_ask _).trans (congrArg Except.ok (State.insertUser_eq s u))

theorem insertUser_eq_ok {u : User} {added : Bool}
    (h : effect now (Change.insertUser u) s = .ok (added, s')) :
    added = !s.users.contains u.id ∧ s' = s.withUser u := by
  rw [effect_insertUser] at h
  cases h
  exact ⟨rfl, rfl⟩

theorem effect_requireRole {name : String} {role : Role} (h : s.roleNamed? name = some role) :
    effect now (requireRole name) s = .ok (role, s) := by
  rw [requireRole, effect_bind_of_ok (effect_roleNamed name), h]
  rfl

theorem effect_requireRole_of_none {name : String} (h : s.roleNamed? name = none) :
    effect now (requireRole name) s = .error (.roleNotFound name) := by
  rw [requireRole, effect_bind_of_ok (effect_roleNamed name), h]
  rfl

theorem requireRole_eq_ok {name : String} {role : Role}
    (h : effect now (requireRole name) s = .ok (role, s')) :
    s.roleNamed? name = some role ∧ s' = s := by
  cases hrole : s.roleNamed? name with
  | none =>
    rw [effect_requireRole_of_none hrole] at h
    cases h
  | some role =>
    rw [effect_requireRole hrole] at h
    cases h
    exact ⟨rfl, rfl⟩

theorem roleNamed?_withUser (s : State) (u : User) (name : String) :
    (s.withUser u).roleNamed? name = s.roleNamed? name := by
  rw [State.roleNamed?, State.roleNamed?, State.withUser_roles]

theorem grantOwner_eq_ok {owner : String} {scope : Scope}
    (h : effect now (grantOwner stamp owner scope) s = .ok ((), s')) :
    ∃ role, s.roleNamed? PredefinedRole.owner.name = some role ∧
      s' = withOwner stamp now owner role scope s := by
  obtain ⟨added, s1, hadd, h⟩ := effect_bind_eq_ok h
  obtain ⟨role, s2, hrole, h⟩ := effect_bind_eq_ok h
  obtain ⟨outcome, s3, hgrant, h⟩ := effect_bind_eq_ok h
  cases h
  obtain ⟨hrole, rfl⟩ := requireRole_eq_ok hrole
  obtain ⟨-, rfl⟩ := insertUser_eq_ok hadd
  cases apply_of_effect hgrant
  exact ⟨role, (roleNamed?_withUser s _ _).symm.trans hrole, rfl⟩

/-- Who is required to be known is so, or is invited by email. -/
theorem effect_requireUser {userId : String}
    (h : s.users.contains userId = true ∨ Email.isValid userId = true) :
    effect now (requireUser stamp.now userId) s =
      .ok (!s.users.contains userId, s.withUser (.placeholder userId stamp.now)) := by
  rw [requireUser, effect_bind_of_ok (effect_findUser userId)]
  cases huser : s.users.find? userId with
  | some u =>
    have hcontains : s.users.contains userId = true := by simp [Store.Table.contains, huser]
    rw [State.withUser_of_contains hcontains, hcontains]
    rfl
  | none =>
    have hvalid : Email.isValid userId = true :=
      h.resolve_left (by simp [Store.Table.contains, huser])
    simp only [hvalid, if_true]
    exact effect_insertUser _

theorem effect_requireUser_of_unknown {userId : String} (hunknown : s.users.find? userId = none)
    (hinvalid : Email.isValid userId = false) :
    effect now (requireUser stamp.now userId) s = .error (.invalidIdentity userId) := by
  rw [requireUser, effect_bind_of_ok (effect_findUser userId), hunknown]
  simp only [hinvalid, Bool.false_eq_true, if_false]
  rfl

/-- A user is required to be known, or is invited by email. -/
theorem requireUser_eq_ok {userId : String} {created : Bool}
    (h : effect now (requireUser stamp.now userId) s = .ok (created, s')) :
    (s.users.contains userId = true ∨ Email.isValid userId = true) ∧
      s' = s.withUser (.placeholder userId stamp.now) ∧
      created = !s.users.contains userId := by
  by_cases huser : s.users.contains userId = true ∨ Email.isValid userId = true
  · rw [effect_requireUser huser] at h
    cases h
    exact ⟨huser, rfl, rfl⟩
  · rw [not_or, Bool.not_eq_true, Bool.not_eq_true] at huser
    have hunknown : s.users.find? userId = none := by simpa [Store.Table.contains] using huser.1
    rw [effect_requireUser_of_unknown hunknown huser.2] at h
    cases h

theorem effect_movePlaceholder (placeholder user : String) :
    effect now (movePlaceholder placeholder user) s =
      .ok ((State.reassign placeholder user now s.assignments).1,
        s.handedOver now placeholder user) := by
  unfold movePlaceholder
  refine (effect_bind_of_ok (effect_ask _)).trans ?_
  refine (effect_bind_of_ok (effect_ask _)).trans ?_
  rfl

theorem movePlaceholder_eq_ok {placeholder user : String} {moved : Nat}
    (h : effect now (movePlaceholder placeholder user) s = .ok (moved, s')) :
    s' = s.handedOver now placeholder user ∧
      moved = (State.reassign placeholder user now s.assignments).1 := by
  rw [effect_movePlaceholder] at h
  cases h
  exact ⟨rfl, rfl⟩

/-! ## Entities -/

/-- **An organization was created**: its name can be stored, and its creator owns it. -/
theorem createOrganization_eq_ok {name owner : String} {body : Change Organization}
    {o : Organization} (hbody : createOrganization stamp name owner = .ok body)
    (h : effect now body s = .ok (o, s')) :
    ∃ role, s.roleNamed? PredefinedRole.owner.name = some role ∧ IsName o.name ∧
      o = ⟨stamp.entityId, Text.trimmed name, stamp.now, stamp.now⟩ ∧
      s' = withOwner stamp now owner role o.scope
        { s with organizations := s.organizations.insert o.id o } := by
  obtain ⟨name', hname, hbody⟩ := bind_eq_ok.1 hbody
  cases hbody
  obtain ⟨rfl, hname⟩ := validateName_eq_ok hname
  obtain ⟨_, s1, hentity, hrest⟩ := effect_bind_eq_ok h
  obtain ⟨_, s2, howner, hdone⟩ := effect_bind_eq_ok hrest
  cases hdone
  cases apply_of_effect hentity
  obtain ⟨role, hrole, rfl⟩ := grantOwner_eq_ok howner
  exact ⟨role, hrole, hname, rfl, rfl⟩

/-- **A project was created** in an organization that exists, and its creator owns it. -/
theorem createProject_eq_ok {organizationId name owner : String} {description : Option String}
    {body : Change Project} {p : Project}
    (hbody : createProject stamp organizationId name description owner = .ok body)
    (h : effect now body s = .ok (p, s')) :
    ∃ role, s.roleNamed? PredefinedRole.owner.name = some role ∧ IsName p.name ∧
      s.organizations.contains organizationId = true ∧
      p = ⟨stamp.entityId, organizationId, Text.trimmed name, description, stamp.now, stamp.now⟩ ∧
      s' = withOwner stamp now owner role p.scope
        { s with projects := s.projects.insert p.id p } := by
  obtain ⟨name', hname, hbody⟩ := bind_eq_ok.1 hbody
  cases hbody
  obtain ⟨rfl, hname⟩ := validateName_eq_ok hname
  obtain ⟨_, s1, hentity, hrest⟩ := effect_bind_eq_ok h
  obtain ⟨_, s2, howner, hdone⟩ := effect_bind_eq_ok hrest
  cases hdone
  have hentity := apply_of_effect hentity
  simp only [Operation.apply] at hentity
  split at hentity
  next horganization =>
    cases hentity
    obtain ⟨role, hrole, rfl⟩ := grantOwner_eq_ok howner
    exact ⟨role, hrole, hname, horganization, rfl, rfl⟩
  · cases hentity

/-- **A resource was created** in a project that exists. -/
theorem createResource_eq_ok {projectId name kind : String} {body : Change Resource}
    {r : Resource} (hbody : createResource stamp projectId name kind = .ok body)
    (h : effect now body s = .ok (r, s')) :
    IsName r.name ∧ IsKind r.kind ∧ s.projects.contains projectId = true ∧
      r = ⟨stamp.entityId, projectId, Text.trimmed name, Text.trimmed kind, stamp.now, stamp.now⟩ ∧
      s' = { s with resources := s.resources.insert r.id r } := by
  obtain ⟨kind', hkind, hbody⟩ := bind_eq_ok.1 hbody
  obtain ⟨name', hname, hbody⟩ := bind_eq_ok.1 hbody
  cases hbody
  obtain ⟨rfl, hkind⟩ := validateKind_eq_ok hkind
  obtain ⟨rfl, hname⟩ := validateName_eq_ok hname
  obtain ⟨_, s1, hentity, hdone⟩ := effect_bind_eq_ok h
  cases hdone
  have hentity := apply_of_effect hentity
  simp only [Operation.apply] at hentity
  split at hentity
  next hproject =>
    cases hentity
    exact ⟨hname, hkind, hproject, rfl, rfl⟩
  · cases hentity

/-! ## Grants -/

/-- The row that is asked for. -/
def requestedRow (stamp : Stamp) (r : GrantRequest) (role : Role) : Assignment :=
  { id := stamp.assignmentId, userId := r.userId, roleId := role.id, scope := r.scope
    assignedBy := r.assignedBy, createdAt := stamp.now, expiresAt := r.expiresAt }

/-- **A role was granted** at a scope that exists, to a known user or an email address. -/
theorem assignRole_eq_ok {r : GrantRequest} {body : Change Granted} {g : Granted}
    (hbody : assignRole stamp r = .ok body) (h : effect now body s = .ok (g, s')) :
    ∃ role, validateExpiry stamp.now r.expiresAt = .ok () ∧
      s.roleNamed? r.roleName = some role ∧ s.hasScope r.scope = true ∧
      (s.users.contains r.userId = true ∨ Email.isValid r.userId = true) ∧
      g = { userId := r.userId, role, scope := r.scope
            outcome := (State.grant now (requestedRow stamp r role) s.assignments).1
            placeholderCreated := !s.users.contains r.userId } ∧
      s' = (s.withUser (.placeholder r.userId stamp.now)).withGrant now
        (requestedRow stamp r role) := by
  obtain ⟨⟨⟩, hexpiry, hbody⟩ := bind_eq_ok.1 hbody
  cases hbody
  obtain ⟨role, s1, hrole, hrest⟩ := effect_bind_eq_ok h
  obtain ⟨found, s2, hfound, hrest⟩ := effect_bind_eq_ok hrest
  obtain ⟨hrole, rfl⟩ := requireRole_eq_ok hrole
  cases apply_of_effect hfound
  cases hscope : s1.hasScope r.scope with
  | false => simp [hscope, Except.bind] at hrest
  | true =>
    simp only [hscope, Bool.not_true, Bool.false_eq_true, if_false] at hrest
    obtain ⟨created, s3, huser, hrest⟩ := effect_bind_eq_ok hrest
    obtain ⟨outcome, s4, hgrant, hdone⟩ := effect_bind_eq_ok hrest
    cases hdone
    obtain ⟨hknown, rfl, rfl⟩ := requireUser_eq_ok huser
    cases apply_of_effect hgrant
    refine ⟨role, hexpiry, hrole, rfl, hknown, ?_, rfl⟩
    rw [State.withUser_assignments]
    rfl

/-- **A role was revoked.** -/
theorem revokeRole_eq_ok {userId roleName : String} {scope : Scope} {found : Bool}
    (h : effect now (revokeRole userId roleName scope) s = .ok (found, s')) :
    ∃ role, s.roleNamed? roleName = some role ∧
      s' = s.withoutGrant ⟨userId, role.id, scope⟩ := by
  obtain ⟨role, s1, hrole, hrevoke⟩ := effect_bind_eq_ok h
  obtain ⟨hrole, rfl⟩ := requireRole_eq_ok hrole
  cases apply_of_effect hrevoke
  exact ⟨role, hrole, rfl⟩

/-! ## Invitations -/

/-- What may be claimed is a valid address and not the name of the user. -/
theorem claims_eq_some {userId e : String} {email : Option String}
    (h : claims userId email = some e) :
    email = some e ∧ Email.isValid e = true ∧ e ≠ userId := by
  obtain ⟨hemail, hclaims⟩ := Option.filter_eq_some_iff.1 h
  simp only [Bool.and_eq_true, bne_iff_ne] at hclaims
  exact ⟨hemail, hclaims⟩

/-- **An invitation was handed to a user**: it was that of a placeholder, and not the user's own
name. -/
theorem transferPlaceholder_eq_ok {email userId : String} {body : Change Nat} {moved : Nat}
    (hbody : transferPlaceholder stamp.now email userId = .ok body)
    (h : effect now body s = .ok (moved, s')) :
    email ≠ userId ∧ (∃ u, s.users.find? email = some u ∧ u.isPlaceholder = true) ∧
      s' = (s.withUser (.known userId (some email) stamp.now)).handedOver now email userId := by
  unfold transferPlaceholder at hbody
  split at hbody
  · cases hbody
  next hne =>
  cases hbody
  obtain ⟨found, s1, hfound, hrest⟩ := effect_bind_eq_ok h
  cases apply_of_effect hfound
  cases huser : s.users.find? email with
  | none => simp [huser, Except.bind] at hrest
  | some u =>
    simp only [huser] at hrest
    split at hrest
    · simp [Except.bind] at hrest
    next hplaceholder =>
      obtain ⟨added, s2, hadd, hmove⟩ := effect_bind_eq_ok hrest
      obtain ⟨-, rfl⟩ := insertUser_eq_ok hadd
      exact ⟨hne, ⟨u, rfl, by simpa using hplaceholder⟩, (movePlaceholder_eq_ok hmove).1⟩

/-- The invitation that a login with an email claims, if there is one. -/
def pending (s : State) (userId : String) (email : Option String) : Option String :=
  (claims userId email).filter fun e => (s.users.find? e).any (·.isPlaceholder)

theorem pending_eq_some {userId e : String} {email : Option String}
    (h : pending s userId email = some e) :
    email = some e ∧ Email.isValid e = true ∧ e ≠ userId ∧
      ∃ u, s.users.find? e = some u ∧ u.isPlaceholder = true := by
  obtain ⟨hclaims, hplaceholder⟩ := Option.filter_eq_some_iff.1 h
  obtain ⟨hemail, hvalid, hne⟩ := claims_eq_some hclaims
  cases huser : s.users.find? e with
  | none => simp [huser] at hplaceholder
  | some u => exact ⟨hemail, hvalid, hne, u, rfl, by simpa [huser] using hplaceholder⟩

/-- **What a login makes of the contents**: the user is known, and an invitation that was pending is
theirs. -/
theorem effect_reconcileLogin (stamp : Stamp) (now : Moment) (userId : String)
    (email : Option String) (s : State) :
    effect now (reconcileLogin stamp.now userId email) s =
      match pending s userId email with
      | none => .ok (⟨!s.users.contains userId, 0⟩, s.withUser (.known userId email stamp.now))
      | some e => .ok (⟨!s.users.contains userId, (State.reassign e userId now s.assignments).1⟩,
          (s.withUser (.known userId email stamp.now)).handedOver now e userId) := by
  unfold reconcileLogin
  refine (effect_bind_of_ok (effect_insertUser _)).trans ?_
  cases hclaims : claims userId email with
  | none =>
    simp only [pending, hclaims]
    rfl
  | some e =>
    refine (effect_bind_of_ok (effect_findUser e)).trans ?_
    rw [State.find?_withUser_of_ne (claims_eq_some hclaims).2.2, pending, hclaims,
      Option.filter_some]
    split
    · refine (effect_bind_of_ok (effect_movePlaceholder e userId)).trans ?_
      rw [State.withUser_assignments]
      rfl
    · rfl

theorem reconcileLogin_eq_ok {userId : String} {email : Option String} {r : Reconciled}
    (h : effect now (reconcileLogin stamp.now userId email) s = .ok (r, s')) :
    s' = match pending s userId email with
      | none => s.withUser (.known userId email stamp.now)
      | some e => (s.withUser (.known userId email stamp.now)).handedOver now e userId := by
  rw [effect_reconcileLogin] at h
  split at h
  · cases h
    rfl
  · cases h
    rfl

end Administration

end TenantGuard
