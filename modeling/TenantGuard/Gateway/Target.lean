import TenantGuard.Api.Place
import TenantGuard.Proxy

/-!
# Targets of requests

Where a request goes is decided by its path alone, before anybody asks who sent it: to a probe, to a
place of the management interface, to a mounted proxy or nowhere.  `routes` is the table, in which
`ofPath` looks.  `FoundAt` says which paths a target has, and a path leads to a target that has it:
`foundAt_ofPath`.
-/

namespace TenantGuard

/-- **Where a request goes.** -/
inductive Target where
  | health
  | readiness
  | metrics
  | api (place : Api.Place)
  | proxy (p : Proxy)
  | nowhere
  deriving DecidableEq, Repr

/-- **The route of a proxy:** whatever lies below its mount, which may hold parameters too. -/
def Proxy.routeText (p : Proxy) : String := p.mount ++ "/*path"

namespace Target

/-- **The routes of a server**, each with the target that it leads to for the values of its
parameters. -/
def routes (proxies : List Proxy) : List (Http.Route (List String → Target)) :=
  [.ofText "/health" fun _ => health,
   .ofText "/ready" fun _ => readiness,
   .ofText "/metrics" fun _ => metrics] ++
  Api.Place.routes.map (fun r => ⟨r.parts, fun values => (r.target values).elim nowhere api⟩) ++
  proxies.map (fun p => .ofText p.routeText fun _ => proxy p)

/-- **The target of a path.** -/
def ofPath (proxies : List Proxy) (path : String) : Target :=
  match Http.Route.lookup (routes proxies) path with
  | some (target, values) => target values
  | none => nowhere

example : ofPath [] "/api/v1/projects/p%41/resources" = api (.resourcesOf "p%41") := by
  decide +kernel

example : ofPath [] "/api/v1/me/" = nowhere := by decide +kernel

/-- A proxy at the root takes what is left over, but not a slash behind a place. -/
example : ofPath [default] "/api/v1/nobody" = proxy default ∧
    ofPath [default] "/api/v1/me/" = nowhere := by
  decide +kernel

open Http (Route)

/-- **The paths at which a target is found.** -/
inductive FoundAt (proxies : List Proxy) : Target → List Char → Prop where
  | health : FoundAt proxies .health "/health".toList
  | readiness : FoundAt proxies .readiness "/ready".toList
  | metrics : FoundAt proxies .metrics "/metrics".toList
  | api {place : Api.Place} {rest : List Char} :
      FoundAt proxies (.api place) (Api.Place.mount.toList ++ rest)
  | proxy {p : Proxy} {cs : List Char} : p ∈ proxies →
      Route.Takes (Route.partsOf false p.routeText.toList) cs → FoundAt proxies (.proxy p) cs
  | nowhere {cs : List Char} : FoundAt proxies .nowhere cs

/-- **A path leads to a target that is found there.** -/
theorem foundAt_ofPath (proxies : List Proxy) (path : String) :
    FoundAt proxies (ofPath proxies path) path.toList := by
  unfold ofPath
  split
  next target values hl =>
    obtain ⟨r, hr, rfl, htakes⟩ := Route.takes_of_lookup hl
    simp only [routes, List.mem_append, List.mem_map, List.mem_cons, List.not_mem_nil,
      or_false] at hr
    rcases hr with ((rfl | rfl | rfl) | ⟨s, hs, rfl⟩) | ⟨p, hp, rfl⟩
    · rw [(Route.takes_text_iff (by decide)).1 htakes]
      exact .health
    · rw [(Route.takes_text_iff (by decide)).1 htakes]
      exact .readiness
    · rw [(Route.takes_text_iff (by decide)).1 htakes]
      exact .metrics
    · obtain ⟨⟨text, place⟩, -, rfl⟩ := List.mem_map.1 hs
      have hparts : Route.Takes (Route.partsOf false (Api.Place.mount.toList ++ text.toList))
          path.toList := by
        rw [← String.toList_append]
        exact htakes
      obtain ⟨rest, hpath, -⟩ := (Route.takes_append_iff (by decide)).1 hparts
      rw [hpath]
      cases hplace : place values with
      | none => simpa [Route.ofText, hplace] using FoundAt.nowhere
      | some place => simpa [Route.ofText, hplace] using FoundAt.api
    · exact .proxy hp htakes
  · exact .nowhere

/-- The methods that a target takes; `none`: any. -/
def methods? : Target → Option (List String)
  | health | readiness | metrics => some ["GET", "HEAD"]
  | api place => some place.methods
  | proxy _ | nowhere => none

/-- Whether a target takes a method. -/
def takes (t : Target) (method : String) : Bool := t.methods?.all (·.contains method)

end Target

/-- **The paths that need no credentials.** -/
def publicPaths : List String := ["/health", "/ready", "/metrics"]

def isPublicPath (path : String) : Bool := publicPaths.contains path

end TenantGuard
