import RequestPipeline.Server.Health
import RequestPipeline.Server.Options
import RequestPipeline.Server.Router
import RequestPipeline.Socket.Upgrade
import RequestPipeline.Telemetry.Recorder

/-!
# The server

A server answers a request by the first that fits: the health path, the metrics path, a gateway if the
request asks for a WebSocket, an endpoint, or that there is no route.  All but the first three go through the
pipeline, so a request that is not authenticated learns nothing else; then a body that could not be read is
reported, then a missing route, and then the operation has the time of a request to answer.
-/

namespace RequestPipeline

open Socket (Gateway Limits)
open Telemetry (Recorder)

inductive BodyEnd where
  | complete
  /-- nothing more comes -/
  | stalled
  /-- the connection fails -/
  | broken
  deriving DecidableEq, Repr

/-- a request whose body comes in parts -/
structure IncomingRequest where
  method : String
  target : RequestTarget
  headers : Headers
  parts : List Bytes
  bodyEnd : BodyEnd
  deriving DecidableEq, Repr

namespace IncomingRequest

def withBody (r : IncomingRequest) (body : Bytes) : Request := ⟨r.method, r.target, r.headers, body⟩

def isUpgrade (r : IncomingRequest) : Bool := (r.withBody []).isUpgrade

end IncomingRequest

structure Server where
  options : ServerOptions
  router : Router
  factory : ContextFactory
  authenticator : Authenticator
  limits : Limits
  health : Health
  /-- what was counted, if the server shows it -/
  metrics : Option Recorder

namespace Server

def healthPath : String := "/health"

def metricsPath : String := "/metrics"

/-- the pipeline of a request; `fresh` is the id of a request that brings none -/
def pipeline (s : Server) (fresh : CorrelationId) : Pipeline :=
  .standard s.factory s.authenticator fresh

/-- reads the parts of a body, of at most `max` bytes together -/
def collect (max : Nat) (bodyEnd : BodyEnd) : Bytes → List Bytes → Option (Except Failure Bytes)
  | body, [] =>
    match bodyEnd with
    | .complete => some (.ok body)
    | .stalled => none
    | .broken => some (.error (.invalidInput "body" (some "failed to read request body")))
  | body, part :: parts =>
    if max < body.length + part.length then
      some (.error (.invalidInput "body" (some
        ("payload too large: max " ++ String.ofList (Text.ofNat max) ++ " bytes"))))
    else collect max bodyEnd (body ++ part) parts

/-- the body of a request, if it comes in time -/
def readBody (s : Server) (r : IncomingRequest) : Run (Except Failure Bytes) :=
  match collect s.options.maxBody r.bodyEnd [] r.parts with
  | some result => pure result
  | none => do
    Run.wait s.options.requestTimeout
    pure (.error (.timeout "request body not received in time"))

def noRoute (r : Request) : Failure := .notFound ("no route for " ++ r.method ++ " " ++ r.target.path)

/-- gives an endpoint the time of a request to answer -/
def handleInTime (s : Server) (e : HttpEndpoint) (context : Option RequestContext)
    (id : CorrelationId) (r : Request) : Run Response := do
  match ← (e.handle context id r).within s.options.requestTimeout with
  | some response => pure response
  | none =>
    Run.note (.answered .http .error s.options.requestTimeout)
    pure (.failure (.timeout
      ("request exceeded " ++ String.ofList (Text.ofNat s.options.requestTimeout) ++ "ms")) id)

def handler (s : Server) (endpoint : Option HttpEndpoint) (fault : Option Failure) : Handler :=
  fun state request => do
    let response ←
      match fault, endpoint with
      | some f, _ => pure (.failure f state.correlationId)
      | none, none => pure (.failure (noRoute request) state.correlationId)
      | none, some e => s.handleInTime e state.context state.correlationId request
    pure (state, response)

def serveHttp (s : Server) (endpoint : Option HttpEndpoint) (r : IncomingRequest)
    (fresh : CorrelationId) : Run Response := do
  let (body, fault) := match ← s.readBody r with
    | .ok body => (body, none)
    | .error f => ([], some f)
  (s.pipeline fresh).respond (s.handler endpoint fault) (.start fresh) (r.withBody body)

inductive Destination where
  | health
  | metrics (r : Recorder)
  | webSocket (g : Gateway)
  | http (e : Option HttpEndpoint)

def destination (s : Server) (r : IncomingRequest) : Destination :=
  if r.method = "GET" ∧ r.target.path = healthPath then .health
  else
    match s.metrics with
    | some m => if r.method = "GET" ∧ r.target.path = metricsPath then .metrics m else routed
    | none => routed
where
  /-- where the router sends a request -/
  routed : Destination :=
    match s.router.find? r.method r.target.path r.isUpgrade with
    | some (.webSocket g) => .webSocket g
    | some (.http e) => .http (some e)
    | none => .http none

def metricsResponse (m : Recorder) : Response :=
  .bytes 200 "text/plain; version=0.0.4" (Utf8.ofText ("\n".intercalate m.settle.lines))

/-- answers a request, `uptime` milliseconds after the start -/
def handle (s : Server) (r : IncomingRequest) (fresh : CorrelationId) (uptime : Nat) : Run Response :=
  match s.destination r with
  | .health => pure (s.health.response uptime)
  | .metrics m => pure (metricsResponse m)
  | .webSocket _ =>
    match ((r.withBody []).upgrade s.factory s.authenticator [] fresh).1 with
    | .ok upgrade => pure upgrade.response
    | .error response => pure response
  | .http e => s.serveHttp e r fresh

def drain (s : Server) : Server := { s with health := s.health.drain }

/-- counts what was noted, if the server shows it -/
def record (s : Server) (events : List Event) : Server :=
  { s with metrics := s.metrics.map fun m => m.recordAll events }

end Server
end RequestPipeline
