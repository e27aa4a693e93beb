import TenantGuard.Context

/-!
# Remembered logins

A login is reconciled with the store once in a while, not on every request.  The memory holds the
instant of each user's last reconciliation; an entry is fresh for some time.

* only a fresh entry spares the user another reconciliation;
* past a number of entries, those that are no longer fresh are swept out.
-/

namespace TenantGuard

/-- **The logins that were reconciled**, with their instants. -/
structure LoginMemory where
  entries : List (String × Instant) := []
  deriving DecidableEq, Repr, Inhabited

namespace LoginMemory

/-- **How long a login is remembered**, and when the memory is swept. -/
structure Policy where
  /-- In milliseconds. -/
  lifetime : Nat := 300000
  /-- The number of entries above which the memory is swept. -/
  sweepAbove : Nat := 10000
  deriving DecidableEq, Repr, Inhabited

/-- Whether an entry of the instant `at` is fresh. -/
def Policy.isFresh (p : Policy) (now since : Instant) : Bool := now - since < p.lifetime

/-- Whether a user's login need not be reconciled now. -/
def knows (m : LoginMemory) (p : Policy) (now : Instant) (user : String) : Bool :=
  (m.entries.lookup user).any (p.isFresh now)

/-- **Remembers a login.** -/
def remember (m : LoginMemory) (p : Policy) (now : Instant) (user : String) : LoginMemory :=
  let entries := (user, now) :: m.entries.filter (·.1 != user)
  if p.sweepAbove < entries.length then ⟨entries.filter fun e => p.isFresh now e.2⟩ else ⟨entries⟩

end LoginMemory

end TenantGuard
