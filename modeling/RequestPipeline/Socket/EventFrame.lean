import RequestPipeline.Operation
import RequestPipeline.Socket.Message

/-!
# Events

A text message of a client names an event, with data and a query beside it.  The answer is a reply under the
name of the event, or an exception.
-/

namespace RequestPipeline.Socket

open Json (Value Members Reader)

structure EventFrame where
  event : String
  data : Option Value
  query : Option Members
  deriving Repr

namespace EventFrame

def reader : Reader :=
  .record "EventFrame" true
    [⟨"event", .text, true⟩, ⟨"data", .optional .any, false⟩,
      ⟨"query", .optional .map, false⟩]

def ofRecord (v : Value) : EventFrame where
  event := ((v.get? "event").bind Value.text?).getD ""
  data := match v.get? "data" with
    | some .null => none
    | data => data
  query := (v.get? "query").bind Value.members?

def parse (text : String) : Except Failure EventFrame :=
  match reader.parse (Utf8.ofText text) with
  | .ok v => .ok (ofRecord v)
  | .error e => .error (.invalidInput "message" (some ("malformed event frame: " ++ e)))

def inbound (f : EventFrame) : Inbound := ⟨f.query.getD [], f.data⟩

end EventFrame

/-- the event under which failures are sent -/
def exceptionEvent : String := "exception"

/-- a text message with a value -/
def Message.document (v : Value) : Message := .text v.render

def reply (event : String) (envelope : Envelope) : Message :=
  .document (Json.object [("event", .string event), ("data", envelope.toJson)])

def exception (f : Failure) (requestId : CorrelationId) : Message :=
  .document (Json.object [("event", .string exceptionEvent),
    ("data", Json.object
      [("status", .ofNat f.status), ("error", f.body (some requestId.render))])])

end RequestPipeline.Socket
