import RequestPipeline.Config.Acceptance
import RequestPipeline.Server.Server

/-!
# Planning a server

A plan says what a server shall be; what it leaves out has a default.  `ServerPlan.build` makes the server,
and `Settings.plan` is the plan that settings describe.
-/

namespace RequestPipeline

open Socket (Gateway Limits)

/-- a route to an endpoint; without a limit of its own it has the limit of the server -/
structure Registration where
  method : String
  path : String
  endpoint : Endpoint
  maxBody : Option Nat

structure ServerPlan where
  options : ServerOptions
  factory : Option ContextFactory
  authenticator : Option Authenticator
  limits : Limits
  routes : List Registration
  /-- paths with the events of their gateways -/
  gateways : List (String × List (String × Endpoint))
  metrics : Option Telemetry.Recorder
  service : Option String
  version : Option String

namespace ServerPlan

def default : ServerPlan := ⟨.default, none, none, .default, [], [], none, none, none⟩

def defaultVersion : String := "0.1.0"

/-- registers routes: those with the limit of the server first -/
def router (p : ServerPlan) : Router :=
  let add (r : Router) (reg : Registration) : Router :=
    r.addRoute reg.method reg.path ⟨reg.endpoint, reg.maxBody.getD p.options.maxBody⟩
  let shared := (p.routes.filter fun reg => reg.maxBody.isNone).foldl add .empty
  let routed := (p.routes.filter fun reg => reg.maxBody.isSome).foldl add shared
  p.gateways.foldl (fun r (path, events) =>
    r.addGateway path (.ofEvents events (p.factory.getD .default))) routed

def build (p : ServerPlan) : Server where
  options := p.options
  router := p.router
  factory := p.factory.getD .default
  authenticator := p.authenticator.getD .anonymous
  limits := p.limits
  health := .start (p.service.getD "turnstile") (p.version.getD defaultVersion)
  metrics := p.metrics

end ServerPlan

inductive PlanFault where
  | config (f : ConfigFault)
  /-- the correlation header is no header name -/
  | correlationHeader
  deriving DecidableEq, Repr

def PlanFault.message : PlanFault → String
  | .config f => f.message
  | .correlationHeader => "invalid correlation header: " ++ ContextFactory.invalidHeaderName

namespace Settings

/-- how long a silent connection is kept, in milliseconds; zero seconds mean for ever -/
def idleTimeout (s : Settings) : Option Nat :=
  if s.websocket.idleTimeout = 0 then none else some (s.websocket.idleTimeout * 1000)

def limits (s : Settings) : Limits := ⟨s.websocket.maxMessage, s.websocket.maxFrame, s.idleTimeout⟩

def factory (s : Settings) : Except PlanFault ContextFactory :=
  match ContextFactory.ofHeaderName? s.pipeline.correlationHeader with
  | some f => .ok { f with trustIncoming := s.pipeline.trustIncoming }
  | none => .error .correlationHeader

def options (s : Settings) : ServerOptions :=
  ⟨s.server.address, s.server.shutdownTimeout * 1000, s.server.requestTimeout * 1000, s.server.maxBody⟩

/-- the plan that settings describe, if a service can run with them -/
def plan (s : Settings) : Except PlanFault ServerPlan :=
  match s.fault? with
  | some f => .error (.config f)
  | none => do
    let f ← s.factory
    return { ServerPlan.default with options := s.options, factory := some f, limits := s.limits }

end Settings
end RequestPipeline
