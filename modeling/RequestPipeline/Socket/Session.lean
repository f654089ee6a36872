import RequestPipeline.Serving.Correlation

/-!
# Sessions

A session is what the handshake settled about a connection.
-/

namespace RequestPipeline.Socket

/-- who is connected, under which id, and what the handshake said -/
structure Session where
  requestId : CorrelationId
  principal : Option Principal
  headers : Headers
  deriving DecidableEq, Repr

namespace Session

def context (s : Session) (factory : ContextFactory) : Option RequestContext :=
  factory.create s.principal s.requestId .webSocket

end Session
end RequestPipeline.Socket
