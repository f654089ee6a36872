import RequestPipeline.Serving.Correlation
import RequestPipeline.Identity.Authenticator
import RequestPipeline.Http.Message
import RequestPipeline.Run

/-!
# Pipelines of middleware

A middleware gets the state of an exchange and a request.  It answers itself, or it passes the request on
and may change the response when that comes back.  A pipeline puts the middleware of a list around a handler,
from the last to the first, and runs what comes of it: requests go through the list from front to back,
responses from back to front.  The standard pipeline correlates, authenticates and builds the context, in
this order.
-/

namespace RequestPipeline

/-- what is known about a request on its way through a pipeline -/
structure Exchange where
  correlationId : CorrelationId
  principal : Option Principal
  context : Option RequestContext
  deriving DecidableEq, Repr

/-- the state at the start, before anything is known but the id -/
def Exchange.start (id : CorrelationId) : Exchange := ⟨id, none, none⟩

inductive Decision where
  /-- it answers the request -/
  | answer (state : Exchange) (response : Response)
  /-- it passes the request on, and treats the response that comes back -/
  | pass (state : Exchange) (request : Request)
      (back : Exchange → Response → Run (Exchange × Response))

/-- what a middleware does with a request, up to its decision -/
abbrev Verdict := Run Decision

namespace Verdict

def answer (state : Exchange) (response : Response) : Verdict := pure (.answer state response)

/-- passes the request on at once, and only changes what comes back -/
def pass (state : Exchange) (request : Request) (back : Exchange → Response → Exchange × Response) : Verdict :=
  pure (.pass state request fun state response => pure (back state response))

end Verdict

structure Middleware where
  name : String
  process : Exchange → Request → Verdict

/-- what answers the requests that pass every stage -/
abbrev Handler := Exchange → Request → Run (Exchange × Response)

/-- a middleware around what comes behind it: that gets a request once if the middleware passes it on, and
never otherwise -/
def Middleware.around (m : Middleware) (next : Handler) : Handler := fun state request => do
  Run.note (.visited m.name)
  match ← m.process state request with
  | .answer state response => pure (state, response)
  | .pass state request back => do
    let (state, response) ← next state request
    back state response

/-- what comes behind a stage: the next stage with what comes behind that, or the handler -/
inductive Next where
  | chain (m : Middleware) (next : Next)
  | handler (h : Handler)

namespace Next

/-- runs the next stage, or the handler at the end of the chain -/
def run : Next → Handler
  | .chain m next => m.around next.run
  | .handler h => h

end Next

/-- the stages of a request, in order -/
abbrev Pipeline := List Middleware

namespace Pipeline

/-- the stages around a handler; the last one is put around it first -/
def chain (p : Pipeline) (handler : Handler) : Next :=
  p.reverse.foldl (fun next m => .chain m next) (.handler handler)

/-- sends a request through the stages to a handler, and the response back -/
def process (p : Pipeline) (handler : Handler) : Handler := (p.chain handler).run

def respond (p : Pipeline) (handler : Handler) (state : Exchange) (request : Request) :
    Run Response := do
  return (← p.process handler state request).2

theorem chain_cons (m : Middleware) (ms : Pipeline) (handler : Handler) :
    chain (m :: ms) handler = .chain m (chain ms handler) := by
  unfold chain
  rw [List.reverse_cons, List.foldl_append]
  rfl

theorem process_nil (handler : Handler) : process [] handler = handler := rfl

theorem process_cons (m : Middleware) (ms : Pipeline) (handler : Handler) :
    process (m :: ms) handler = m.around (process ms handler) := by
  unfold process
  rw [chain_cons]
  rfl

end Pipeline

namespace Middleware

/-- gives a request its id, and writes the id into the response -/
def correlation (factory : ContextFactory) (fresh : CorrelationId) : Middleware where
  name := "correlation"
  process state request :=
    let (id, headers) := factory.correlate fresh request.headers
    .pass { state with correlationId := id } { request with headers := headers }
      fun state response =>
        (state, response.withHeader factory.header (Utf8.encode id.chars))

/-- finds the principal, or answers that the request is refused -/
def identity (authenticator : Authenticator) : Middleware where
  name := "identity"
  process state request :=
    match authenticator request.headers with
    | .ok (some p) => .pass { state with principal := some p } request Prod.mk
    | .ok none => .pass state request Prod.mk
    | .error f => .answer state (.failure f state.correlationId)

/-- builds the context of a request whose principal is known -/
def context (factory : ContextFactory) : Middleware where
  name := "context"
  process state request :=
    let created := factory.create state.principal state.correlationId .http
    .pass { state with context := created.or state.context } request Prod.mk

end Middleware

def Pipeline.standard (factory : ContextFactory) (authenticator : Authenticator)
    (fresh : CorrelationId) : Pipeline :=
  [.correlation factory fresh, .identity authenticator, .context factory]

inductive Stage where
  | correlation | identity | context | injection | validation | stripping | serialization | envelope
  deriving DecidableEq, Repr

namespace Stage

def all : List Stage :=
  [.correlation, .identity, .context, .injection, .validation, .stripping, .serialization, .envelope]

def name : Stage → String
  | .correlation => "correlation"
  | .identity => "identity"
  | .context => "context"
  | .injection => "injection"
  | .validation => "validation"
  | .stripping => "stripping"
  | .serialization => "serialization"
  | .envelope => "envelope"

/-- the number of a stage, counted from one -/
def number (s : Stage) : Nat := all.idxOf s + 1

end Stage
end RequestPipeline
