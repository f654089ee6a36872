import RequestPipeline.Proofs.Dispatch.Gate
import RequestPipeline.Proofs.Keyed
import RequestPipeline.Serving.HttpEndpoint
import RequestPipeline.Socket.Gateway

/-!
# Answers on the two transports

An HTTP endpoint and a gateway both pass an inbound request on to an operation and render what comes back;
time is only noted.  So the answer is the rendered result of the invocation:

* `HttpEndpoint.value_handle`, `Pipeline.value_respond_congr`   the response, by itself and through a pipeline;
* `Gateway.value_handleText`                                    the message;
* `Gateway.find?_on`                                            which operation an event has.
-/

namespace RequestPipeline

namespace HttpEndpoint
variable (e : HttpEndpoint) (context : Option RequestContext) (requestId : CorrelationId)
  (request : Request)

theorem value_handle : (e.handle context requestId request).value
    = render requestId (e.invoke context request).value := rfl

theorem called_handle : (e.handle context requestId request).called
    = (e.invoke context request).called := by
  unfold handle
  rw [Run.called_bind, Run.called_timed]
  exact List.append_nil _

theorem elapsed_handle : (e.handle context requestId request).elapsed
    = (e.invoke context request).elapsed := by
  unfold handle
  rw [Run.elapsed_bind]
  exact Nat.add_zero _

theorem inputs_handle : (e.handle context requestId request).inputs
    = (e.invoke context request).inputs := by
  rw [Run.inputs_eq_map_called, Run.inputs_eq_map_called, called_handle]

theorem sendsBytes_handle_iff : (e.handle context requestId request).SendsBytes ↔
    (e.invoke context request).SendsBytes := by
  unfold handle
  rw [Run.sendsBytes_bind]
  refine or_iff_left ?_
  -- what is noted last is that the request was answered
  intro h
  cases h with
  | tail _ h => cases h

theorem invoke_of_inbound {inbound : Inbound} (h : e.inbound request = .ok inbound) :
    e.invoke context request = e.endpoint.invoke .http context inbound := by
  unfold invoke
  rw [h]

theorem invoke_of_fault {f : Failure} (h : e.inbound request = .error f) :
    e.invoke context request = pure (.error f) := by
  unfold invoke
  rw [h]

end HttpEndpoint

/-! ## pipelines -/

namespace Pipeline

/-- a pipeline adds nothing to a response that depends on how its handler came to it -/
theorem value_process_congr {h h' : Handler}
    (hv : ∀ state request, (h state request).value = (h' state request).value) (p : Pipeline) :
    ∀ state request, (p.process h state request).value = (p.process h' state request).value := by
  induction p with
  | nil => exact hv
  | cons m ms ih =>
    intro state request
    rw [process_cons, process_cons]
    unfold Middleware.around
    rw [Run.value_bind, Run.value_bind, Run.value_bind, Run.value_bind]
    cases (m.process state request).value with
    | answer state response => rfl
    | pass state request back =>
      exact congrArg (fun r : Exchange × Response => (back r.1 r.2).value) (ih state request)

theorem value_respond_congr {h h' : Handler}
    (hv : ∀ state request, (h state request).value = (h' state request).value) (p : Pipeline)
    (state : Exchange) (request : Request) :
    (p.respond h state request).value = (p.respond h' state request).value :=
  congrArg Prod.snd (value_process_congr hv p state request)

end Pipeline

/-! ## gateways -/

namespace Socket.Gateway
variable (g : Gateway) (session : Session)

/-- an event has the operation that it was given last, and the others keep theirs -/
theorem find?_on (event : String) (e : Endpoint) (name : String) :
    (g.on event e).find? name = if name = event then some e else g.find? name := by
  have events : (g.on event e).events = g.events.filter (fun entry => entry.1 != event) ++ [(event, e)] :=
    congrArg (· ++ [(event, e)]) (List.filter_congr fun entry _ => by by_cases hn : entry.1 = event <;> simp [hn])
  unfold find?
  rw [events, List.lookup_append, Keyed.lookup_filter_ne, List.lookup_cons, List.lookup_nil]
  by_cases h : name = event
  · rw [if_pos h, beq_iff_eq.mpr h]
    rfl
  · rw [if_neg h, beq_eq_false_iff_ne.mpr h]
    exact Option.or_none

theorem handleText_of_malformed {text : String} {f : Failure} (h : EventFrame.parse text = .error f) :
    g.handleText session text = reject session f := by
  unfold handleText
  rw [h]

section
variable {text : String} {frame : EventFrame} (h : EventFrame.parse text = .ok frame)
include h

theorem handleText_of_unknown (he : g.find? frame.event = none) : g.handleText session text
    = reject session (.notFound ("no handler for event '" ++ frame.event ++ "'")) := by
  simp only [handleText, h, he]

variable {e : Endpoint} (he : g.find? frame.event = some e)
include he

theorem handleText_of_found : g.handleText session text = (do
    let (result, elapsed) ← (e.invoke .webSocket (session.context g.factory) frame.inbound).timed
    Run.note (.answered .webSocket (Outcome.ofResult result) elapsed)
    pure (render session frame.event result)) := by
  simp only [handleText, h, he]

theorem value_handleText : (g.handleText session text).value = render session frame.event
    (e.invoke .webSocket (session.context g.factory) frame.inbound).value := by
  rw [handleText_of_found g session h he]
  rfl

theorem called_handleText : (g.handleText session text).called
    = (e.invoke .webSocket (session.context g.factory) frame.inbound).called := by
  rw [handleText_of_found g session h he, Run.called_bind, Run.called_timed]
  exact List.append_nil _

theorem inputs_handleText : (g.handleText session text).inputs
    = (e.invoke .webSocket (session.context g.factory) frame.inbound).inputs := by
  rw [Run.inputs_eq_map_called, Run.inputs_eq_map_called, called_handleText g session h he]

end

end Socket.Gateway

end RequestPipeline
