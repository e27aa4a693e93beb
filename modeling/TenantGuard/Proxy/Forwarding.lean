import TenantGuard.Http.Message
import TenantGuard.Text.Blank
import TenantGuard.Text.Split

/-!
# Headers that are forwarded

Most headers of a request go on to the backend and most of its answer's come back.  What concerns
one connection, what the caller is known by and what the proxy sets itself does not.

* `forwardable` keeps the client's headers that may go on; those that a `Connection` header lists
  may not;
* `outboundHeaders` adds the tenant header, which is the proxy's alone.
-/

namespace TenantGuard.Proxy

open Http (Header)

/-- Headers that concern one connection. -/
def hopByHop : List String :=
  ["connection", "keep-alive", "proxy-authenticate", "proxy-authorization", "te", "trailer",
   "transfer-encoding", "upgrade"]

/-- Headers that carry the caller's credentials or are set anew. -/
def stripped : List String := ["authorization", "cookie", "host", "content-length"]

/-- The names that a value of a `Connection` header lists. -/
def namesIn (value : List Char) : List String :=
  ((Text.splitOn ',' value).map fun piece => (Text.trim piece).map Char.toLower)
    |>.filter (!·.isEmpty) |>.map String.ofList

/-- The names that the `Connection` headers list; a value that is no text lists none. -/
def connectionNames (hs : List Header) : List String :=
  ((Http.values "connection" hs).filterMap Http.visible?).flatMap namesIn

/-- Whether a client's header may go on to the backend. -/
def mayForward (tenantHeader : String) (listed : List String) (h : Header) : Bool :=
  !hopByHop.contains h.name && !stripped.contains h.name && h.name != tenantHeader &&
    !listed.contains h.name

/-- **The client's headers that go on.** -/
def forwardable (tenantHeader : String) (hs : List Header) : List Header :=
  hs.filter (mayForward tenantHeader (connectionNames hs))

/-- **The headers that go out**: the client's, then the tenant, if the project can be the value of
a header. -/
def outboundHeaders (tenantHeader projectId : String) (hs : List Header) : List Header :=
  match Header.read? tenantHeader projectId with
  | some h => Http.setHeader h (forwardable tenantHeader hs)
  | none => forwardable tenantHeader hs

/-- The headers of a backend's answer that come back. -/
def returnable (hs : List Header) : List Header :=
  hs.filter fun h => !hopByHop.contains h.name && h.name != "content-length"

end TenantGuard.Proxy
