import RequestPipeline.Http.Header
import RequestPipeline.Context

/-!
# Correlation of requests

Every request has a correlation id.  `ContextFactory.correlate` takes it from the correlation header if the
factory trusts what comes in and the first value of that header is an id; otherwise it takes a fresh id and
writes it into the header, so that afterwards the header always holds the id.
-/

namespace RequestPipeline

/-- the header that carries correlation ids, and whether ids that come in are trusted -/
structure ContextFactory where
  header : String
  trustIncoming : Bool
  deriving DecidableEq, Repr

namespace ContextFactory

def defaultHeader : String := "x-request-id"

/-- trusts ids that come in the usual header -/
def default : ContextFactory := ⟨defaultHeader, true⟩

def invalidHeaderName : String := "invalid HTTP header name"

/-- the factory for a header of the given name; blanks around it and its case do not matter -/
def ofHeaderName? (name : String) : Option ContextFactory :=
  (headerName? ((Text.trimChars name.toList).map Text.lowerChar)).map fun h => ⟨h, true⟩

/-- the id that came in, if it is trusted -/
def incoming? (f : ContextFactory) (headers : Headers) : Option CorrelationId :=
  if f.trustIncoming then (headers.text? f.header).bind Uuid.ofHeaderText? else none

/-- the id of a request, and its headers with that id in them; `fresh` is the id it gets if it has
none that is trusted -/
def correlate (f : ContextFactory) (fresh : CorrelationId) (headers : Headers) :
    CorrelationId × Headers :=
  match f.incoming? headers with
  | some id => (id, headers)
  | none => (fresh, headers.insert f.header (Utf8.encode fresh.chars))

/-- the context of a request, if its principal is known -/
def create (_ : ContextFactory) (principal : Option Principal) (requestId : CorrelationId)
    (transport : Transport) : Option RequestContext :=
  principal.map fun p => .ofPrincipal p requestId transport

def build (f : ContextFactory) (fresh : CorrelationId) (principal : Option Principal)
    (headers : Headers) (transport : Transport) : Option RequestContext × Headers :=
  let (id, headers) := f.correlate fresh headers
  (f.create principal id transport, headers)

theorem correlate_of_incoming {f : ContextFactory} {headers : Headers} {id : CorrelationId}
    (h : f.incoming? headers = some id) (fresh : CorrelationId) :
    f.correlate fresh headers = (id, headers) := by
  simp [correlate, h]

theorem correlate_of_none {f : ContextFactory} {headers : Headers}
    (h : f.incoming? headers = none) (fresh : CorrelationId) :
    f.correlate fresh headers = (fresh, headers.insert f.header (Utf8.encode fresh.chars)) := by
  simp [correlate, h]

end ContextFactory
end RequestPipeline
