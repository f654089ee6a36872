import RequestPipeline.Serving.Pipeline
import RequestPipeline.Operation
import RequestPipeline.Extraction.Body
import RequestPipeline.Http.Form

/-!
# Endpoints over HTTP

An HTTP endpoint reads the query and the body of a request, dispatches them, and renders the result:
an envelope as JSON, bytes as they are, and a failure by its status and its body.
-/

namespace RequestPipeline

structure HttpEndpoint where
  endpoint : Endpoint
  maxBody : Nat

namespace HttpEndpoint

/-- an endpoint with the usual limit -/
def ofEndpoint (e : Endpoint) : HttpEndpoint := ⟨e, defaultMaxBody⟩

def inbound (e : HttpEndpoint) (request : Request) : Except Failure Inbound :=
  match readBody e.maxBody request.headers request.body with
  | .error fault => .error fault.failure
  | .ok body => .ok ⟨Query.parse (request.target.query.getD ""), body⟩

def invoke (e : HttpEndpoint) (context : Option RequestContext) (request : Request) :
    Run (Except Failure Outgoing) :=
  match e.inbound request with
  | .error f => pure (.error f)
  | .ok inbound => e.endpoint.invoke .http context inbound

def render (requestId : CorrelationId) : Except Failure Outgoing → Response
  | .ok (.envelope envelope) => .json 200 envelope.toJson
  | .ok (.binary blob) => .bytes 200 blob.contentType blob.bytes
  | .error f => .failure f requestId

/-- answers a request, and notes that it did -/
def handle (e : HttpEndpoint) (context : Option RequestContext) (requestId : CorrelationId)
    (request : Request) : Run Response := do
  let (result, elapsed) ← (e.invoke context request).timed
  Run.note (.answered .http (Outcome.ofResult result) elapsed)
  pure (render requestId result)

def handler (e : HttpEndpoint) : Handler := fun state request => do
  let response ← e.handle state.context state.correlationId request
  pure (state, response)

def serve (e : HttpEndpoint) (p : Pipeline) (request : Request) (start : CorrelationId) :
    Run Response :=
  p.respond e.handler (.start start) request

end HttpEndpoint
end RequestPipeline
