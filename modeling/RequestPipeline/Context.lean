import RequestPipeline.Failure
import RequestPipeline.Identity.Principal
import RequestPipeline.Uuid

/-!
# Contexts of requests

A request comes over a transport (HTTP or WebSocket), which is served by a host; a host may also be of a
kind that has no transport.  An authenticated request has a `RequestContext`: who asks, with which roles,
under which correlation id and over which transport.  It never becomes part of the input.
-/

namespace RequestPipeline

/-- the id that ties a request, its logs and its answers together -/
abbrev CorrelationId := Uuid

inductive Transport where
  | http | webSocket
  deriving DecidableEq, Repr

inductive Host where
  | http | webSocket | rpc
  deriving DecidableEq, Repr

namespace Transport

def label : Transport → String
  | .http => "http"
  | .webSocket => "ws"

/-- the name of a transport in a rendered context -/
def name : Transport → String
  | .http => "http"
  | .webSocket => "web_socket"

def host : Transport → Host
  | .http => .http
  | .webSocket => .webSocket

end Transport

namespace Host

def label : Host → String
  | .http => "http"
  | .webSocket => "ws"
  | .rpc => "rpc"

def transport : Host → Except Failure Transport
  | .http => .ok .http
  | .webSocket => .ok .webSocket
  | .rpc => .error (.unsupportedTransport Host.rpc.label)

/-- the host of a name, in any case -/
def parse (name : String) : Except Failure Host :=
  match Text.lowerAscii name with
  | "http" => .ok .http
  | "ws" => .ok .webSocket
  | "websocket" => .ok .webSocket
  | "rpc" => .ok .rpc
  | other => .error (.unsupportedTransport other)

end Host

/-- who asks, under which id and over which transport -/
structure RequestContext where
  principalId : Int
  roles : Roles
  requestId : CorrelationId
  transport : Transport
  deriving DecidableEq, Repr

namespace RequestContext

def ofPrincipal (p : Principal) (requestId : CorrelationId) (transport : Transport) :
    RequestContext :=
  ⟨p.id, p.roles, requestId, transport⟩

def hasRole (c : RequestContext) (role : String) : Bool := c.roles.contains role

def toJson (c : RequestContext) : Json.Value :=
  Json.object
    [("principal_id", .ofInt c.principalId), ("roles", .ofTexts c.roles),
      ("request_id", .string c.requestId.render), ("transport", .string c.transport.name)]

end RequestContext

/-- a body with the context it came in, if the caller is known -/
structure Payload (α : Type) where
  body : α
  context : Option RequestContext
  deriving Repr

namespace Payload

variable {α β : Type}

def ofBody (body : α) : Payload α := ⟨body, none⟩

def attach (p : Payload α) (c : RequestContext) : Payload α := { p with context := some c }

def strip (p : Payload α) : Payload α := { p with context := none }

def map (f : α → β) (p : Payload α) : Payload β := ⟨f p.body, p.context⟩

/-- changes the body where that is possible, and keeps the context -/
def tryMap {ε : Type} (f : α → Except ε β) (p : Payload α) : Except ε (Payload β) :=
  (f p.body).map fun b => ⟨b, p.context⟩

/-- the payload of a request: its body, if it has one, in the context of the caller, if it is known -/
def inject (body : Option α) (context : Option RequestContext) : Option (Payload α) :=
  body.map fun b => ⟨b, context⟩

end Payload
end RequestPipeline
