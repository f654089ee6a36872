import RequestPipeline.Serving.HttpEndpoint
import RequestPipeline.Socket.Gateway

/-!
# Routing

A router has endpoints by method and path, and gateways by path.  A registration replaces what was there
before; paths are kept with a slash in front.
-/

namespace RequestPipeline

open Socket (Gateway)

/-- endpoints by method and path, gateways by path -/
structure Router where
  endpoints : List ((String × String) × HttpEndpoint)
  gateways : List (String × Gateway)

inductive Route where
  | http (e : HttpEndpoint)
  | webSocket (g : Gateway)

namespace Router

/-- a path with a slash in front -/
def normalize (path : String) : String := if path.startsWith "/" then path else "/" ++ path

/-- gives a key a value; what it had before is replaced -/
def assign {κ α : Type} [BEq κ] (key : κ) (value : α) (entries : List (κ × α)) : List (κ × α) :=
  entries.filter (fun e => e.1 != key) ++ [(key, value)]

def empty : Router := ⟨[], []⟩

def addRoute (r : Router) (method path : String) (e : HttpEndpoint) : Router :=
  { r with endpoints := assign (method, normalize path) e r.endpoints }

def addGateway (r : Router) (path : String) (g : Gateway) : Router :=
  { r with gateways := assign (normalize path) g r.gateways }

/-- what serves a request: a gateway if the request asks for one, an endpoint otherwise -/
def find? (r : Router) (method path : String) (upgrade : Bool) : Option Route :=
  let gateway := if upgrade ∧ method = "GET" then r.gateways.lookup path else none
  match gateway with
  | some g => some (.webSocket g)
  | none => (r.endpoints.lookup (method, path)).map .http

def hasPath (r : Router) (path : String) : Bool :=
  (r.gateways.lookup path).isSome || r.endpoints.any fun e => e.1.2 == path

def routeCount (r : Router) : Nat := r.endpoints.length + r.gateways.length

end Router
end RequestPipeline
