import RequestPipeline.Proofs.Server.Handling
import RequestPipeline.Proofs.Socket.Serving

/-!
# What is noted as answered

While a request is served it is noted that it was answered, by which transport and with which outcome.  No operation
notes this (`answered_dispatch`), so that it is known where it is noted:

* `answered_handleInTime`   an endpoint over HTTP notes it once, in time or not, with the outcome of its response;
* `answered_serveHttp_of_reached`, `answered_serveHttp_of_unreached`   a server notes it for a request that reaches an
                            endpoint, and for no other;
* `answered_handleText`     a gateway notes it once for a text, with the outcome that its frame tells.

`Message.Tells` says how a frame tells an outcome; it tells one at most (`Message.Tells.unique`).
-/

namespace RequestPipeline

/-! ## runs -/

def Event.answered? : Event → Option (Transport × Outcome)
  | .answered transport outcome _ => some (transport, outcome)
  | _ => none

namespace Run
variable {α β : Type}

/-- what is noted as answered, in order -/
def answered (r : Run α) : List (Transport × Outcome) := r.events.filterMap Event.answered?

theorem answered_bind (r : Run α) (f : α → Run β) : (r >>= f).answered = r.answered ++ (f r.value).answered := by
  unfold answered
  rw [events_bind, List.filterMap_append]

theorem answered_eq_filterMap (r : Run α) : r.answered = r.log.filterMap fun x => x.2.answered? := by
  unfold answered events
  rw [List.filterMap_map]
  rfl

theorem answered_visited (name : String) (r : Run α) : (do note (.visited name); r).answered = r.answered := by
  rw [answered_bind]
  rfl

theorem answered_timed (r : Run α) : r.timed.answered = r.answered := rfl

/-- whether answers are noted at the end of a run only -/
def AnswersAtEnd (r : Run α) : Prop := ∀ x ∈ r.log, x.2.answered? ≠ none → x.1 = r.elapsed

/-- what would be noted at the end is lost with the end -/
theorem AnswersAtEnd.answered_within {r : Run α} (h : r.AnswersAtEnd) (limit : Nat) :
    (r.within limit).answered = if r.elapsed ≤ limit then r.answered else [] := by
  unfold within
  split
  · rfl
  · rename_i hl
    rw [answered_eq_filterMap, List.filterMap_eq_nil_iff]
    intro x hx
    obtain ⟨hx, ht⟩ := List.mem_filter.mp hx
    refine Decidable.byContradiction fun ha => hl ?_
    rw [← h x hx ha]
    exact of_decide_eq_true ht

end Run

/-! ## operations -/

section
variable (op : Operation) (host : Host) (context : Option RequestContext)

theorem answered_send (filtered : Filtered) : (filtered.send host).answered = [] := by
  cases host <;> rfl

theorem answered_answer (input : Input) : (op.answer host context input).answered = [] := by
  unfold Operation.answer
  rw [Run.answered_bind]
  refine List.append_eq_nil_iff.mpr ⟨rfl, ?_⟩
  cases (op.perform context input).value with
  | error f => rfl
  | ok reply => exact answered_send host _

/-- an operation does not note that a request was answered -/
theorem answered_dispatch (inbound : Inbound) : (dispatch op host context inbound).answered = [] := by
  rw [dispatch_eq]
  cases op.accept context inbound with
  | error f => rfl
  | ok input => exact answered_answer op host context input

end

/-- whether an endpoint leaves it to its host to note that a request was answered -/
def Endpoint.Quiet (e : Endpoint) : Prop := ∀ host context inbound, (e.invoke host context inbound).answered = []

theorem Operation.quiet_endpoint (op : Operation) : op.endpoint.Quiet := answered_dispatch op

/-! ## outcomes -/

namespace Outcome

/-- the outcome that a status says -/
def ofStatus (status : Nat) : Outcome :=
  if 500 ≤ status then .error else if 400 ≤ status then .rejected else .ok

theorem ofStatus_status (f : Failure) : ofStatus f.status = ofFailure f := by
  unfold ofFailure Failure.isClientError Failure.status
  cases f.category <;> rfl

theorem ofStatus_render (requestId : CorrelationId) (result : Except Failure Outgoing) :
    ofStatus (HttpEndpoint.render requestId result).status = ofResult result := by
  cases result with
  | error f => exact ofStatus_status f
  | ok outgoing => cases outgoing <;> rfl

end Outcome

/-! ## endpoints -/

namespace HttpEndpoint
variable {e : HttpEndpoint} (quiet : e.endpoint.Quiet) (context : Option RequestContext)
  (requestId : CorrelationId) (request : Request)
include quiet

theorem answered_invoke : (e.invoke context request).answered = [] := by
  unfold invoke
  cases e.inbound request with
  | error f => rfl
  | ok inbound => exact quiet .http context inbound

theorem answered_handle : (e.handle context requestId request).answered =
    [(.http, Outcome.ofResult (e.invoke context request).value)] := by
  unfold handle
  rw [Run.answered_bind, Run.answered_timed, answered_invoke quiet]
  rfl

theorem answersAtEnd_handle : (e.handle context requestId request).AnswersAtEnd := by
  intro x hx ha
  rw [elapsed_handle]
  have hq := answered_invoke quiet context request
  rw [Run.answered_eq_filterMap, List.filterMap_eq_nil_iff] at hq
  rcases List.mem_append.mp hx with hx | hx
  · exact absurd (hq x hx) ha
  · obtain ⟨y, hy, rfl⟩ := List.mem_map.mp hx
    obtain rfl : y = (0, .answered .http _ _) := List.mem_singleton.mp hy
    rfl

end HttpEndpoint

/-! ## pipelines -/

namespace Pipeline

section
variable {factory : ContextFactory} {authenticator : Authenticator} {fresh requestId : CorrelationId}
  {handler : Handler} {request : Request} {headers : Headers}
  (correlated : factory.correlate fresh request.headers = (requestId, headers))
include correlated

theorem answered_respond_of_refused {f : Failure} (refused : authenticator headers = .error f) :
    ((standard factory authenticator fresh).respond handler (.start fresh) request).answered = [] := by
  unfold respond
  rw [process_standard_of_refused correlated refused]
  rfl

theorem answered_respond_of_identified {p : Option Principal} (identified : authenticator headers = .ok p) :
    ((standard factory authenticator fresh).respond handler (.start fresh) request).answered
      = (handler ⟨requestId, p, factory.create p requestId .http⟩ { request with headers := headers }).answered := by
  unfold respond
  rw [process_standard_of_identified correlated identified]
  simp only [bind_assoc, pure_bind, Run.answered_visited]
  exact (Run.answered_bind _ _).trans (List.append_nil _)

end

end Pipeline

/-! ## servers -/

namespace Server

section
variable (s : Server) {e : HttpEndpoint} (quiet : e.endpoint.Quiet) (context : Option RequestContext)
  (requestId : CorrelationId) (request : Request)
include quiet

/-- an endpoint notes once that it answered, whether it did in time or not -/
theorem answered_handleInTime : (s.handleInTime e context requestId request).answered =
    [(.http, Outcome.ofStatus (s.handleInTime e context requestId request).value.status)] := by
  have hw := (e.answersAtEnd_handle quiet context requestId request).answered_within s.options.requestTimeout
  rw [HttpEndpoint.elapsed_handle, e.answered_handle quiet] at hw
  rw [value_handleInTime]
  unfold handleInTime
  rw [Run.answered_bind, Run.value_within, hw, HttpEndpoint.elapsed_handle]
  by_cases h : (e.invoke context request).elapsed ≤ s.options.requestTimeout
  · rw [if_pos h, if_pos h, if_pos h, Outcome.ofStatus_render]
    rfl
  · rw [if_neg h, if_neg h, if_neg h]
    rfl

end

section
variable (s : Server) (r : IncomingRequest) (fresh : CorrelationId)

theorem answered_readBody : (s.readBody r).answered = [] := by
  unfold readBody
  split <;> rfl

/-- the endpoint that a request reaches, if its caller is not refused and its body is read -/
def reached? (endpoint : Option HttpEndpoint) : Option HttpEndpoint :=
  match s.caller r fresh, s.unread? r with
  | .ok _, none => endpoint
  | _, _ => none

end

section
variable {s : Server} {r : IncomingRequest} {fresh : CorrelationId}

theorem reached?_eq_some {endpoint : Option HttpEndpoint} {e : HttpEndpoint}
    (h : s.reached? r fresh endpoint = some e) :
    (∃ p, s.caller r fresh = .ok p) ∧ s.unread? r = none ∧ endpoint = some e := by
  unfold reached? at h
  split at h
  · exact ⟨⟨_, ‹_›⟩, ‹_›, h⟩
  · cases h

theorem answered_serveHttp (endpoint : Option HttpEndpoint) : (s.serveHttp endpoint r fresh).answered
    = ((s.pipeline fresh).respond (s.handler endpoint (s.unread? r)) (.start fresh)
        (r.withBody (match s.unread? r with
          | some _ => []
          | none => r.parts.flatten))).answered := by
  have hv := congrArg Prod.snd (s.observed_readBody r)
  unfold serveHttp
  rw [Run.answered_bind, answered_readBody, show (s.readBody r).value = _ from hv]
  cases s.unread? r <;> rfl

theorem answered_serveHttp_of_unreached {endpoint : Option HttpEndpoint}
    (h : s.reached? r fresh endpoint = none) : (s.serveHttp endpoint r fresh).answered = [] := by
  rw [answered_serveHttp]
  unfold reached? at h
  cases hc : s.caller r fresh with
  | error f => exact Pipeline.answered_respond_of_refused rfl hc
  | ok p =>
    refine (Pipeline.answered_respond_of_identified rfl hc).trans ?_
    cases hu : s.unread? r with
    | some f => rfl
    | none =>
      rw [hc, hu] at h
      obtain rfl : endpoint = none := h
      rfl

/-- a server notes that it answered a request that reaches an endpoint, with the outcome of the response -/
theorem answered_serveHttp_of_reached {endpoint : Option HttpEndpoint} {e : HttpEndpoint}
    (h : s.reached? r fresh endpoint = some e) (quiet : e.endpoint.Quiet) :
    (s.serveHttp endpoint r fresh).answered
      = [(.http, Outcome.ofStatus (s.serveHttp endpoint r fresh).value.status)] := by
  obtain ⟨⟨p, hc⟩, hu, rfl⟩ := reached?_eq_some h
  have hv : (s.serveHttp (some e) r fresh).value = s.echo r fresh _ :=
    congrArg Prod.snd (observed_serveHttp_of_routed hc hu e)
  rw [answered_serveHttp, hu, hv]
  refine (Pipeline.answered_respond_of_identified rfl hc).trans ?_
  refine (Run.answered_bind _ _).trans ((List.append_nil _).trans ?_)
  exact s.answered_handleInTime quiet _ _ _

end

end Server

/-! ## gateways -/

namespace Socket

/-- how a frame says that a message ended -/
inductive Message.Tells : Message → Outcome → Prop where
  | reply (event : String) (e : Envelope) : Tells (reply event e) .ok
  | binary (bs : Bytes) : Tells (.binary bs) .ok
  | exception (f : Failure) (id : CorrelationId) : Tells (exception f id) (.ofStatus f.status)

theorem Message.Tells.unique {m : Message} {o o' : Outcome} (h : m.Tells o) (h' : m.Tells o') : o = o' := by
  generalize hm : m = m' at h'
  cases h with
  | reply event e =>
    cases h' with
    | reply _ _ => rfl
    | binary bs => cases hm
    | exception f id => exact absurd hm (reply_ne_exception event e f id)
  | binary bs =>
    cases h' with
    | exception f id => cases hm
    | _ => rfl
  | exception f id =>
    cases h' with
    | reply event e => exact absurd hm.symm (reply_ne_exception event e f id)
    | binary bs => cases hm
    | exception g u => rw [(exception_injective hm).1]

namespace Gateway

/-- whether the endpoints of a gateway leave it to the gateway to note that a message was answered -/
def Quiet (g : Gateway) : Prop := ∀ event e, g.find? event = some e → e.Quiet

theorem RunsOperations.quiet {g : Gateway} (h : g.RunsOperations) : g.Quiet := by
  intro event e he
  obtain ⟨op, rfl⟩ := h event e he
  exact op.quiet_endpoint

section
variable (g : Gateway) (session : Session)

theorem tells_render (event : String) (result : Except Failure Outgoing) :
    (render session event result).Tells (Outcome.ofResult result) := by
  cases result with
  | error f =>
    show (exception f session.requestId).Tells (Outcome.ofFailure f)
    rw [← Outcome.ofStatus_status]
    exact .exception f session.requestId
  | ok outgoing =>
    cases outgoing with
    | envelope e => exact .reply event e
    | binary b => exact .binary b.bytes

theorem tells_reject {f : Failure} (h : f.isClientError = true) : (reject session f).value.Tells .rejected := by
  have ho : Outcome.ofStatus f.status = .rejected := by
    rw [Outcome.ofStatus_status]
    exact if_pos h
  exact ho ▸ .exception f session.requestId

variable {g} (quiet : g.Quiet) (text : String)
include quiet

/-- a gateway notes once that it answered a text, with the outcome that its frame tells -/
theorem answered_handleText : ∃ outcome, (g.handleText session text).value.Tells outcome ∧
    (g.handleText session text).answered = [(.webSocket, outcome)] := by
  cases h : EventFrame.parse text with
  | error f =>
    have hf : f.isClientError = true := by
      unfold EventFrame.parse at h
      split at h
      · cases h
      · obtain rfl := Except.error.inj h
        rfl
    rw [handleText_of_malformed g session h]
    exact ⟨.rejected, tells_reject session hf, rfl⟩
  | ok frame =>
    cases he : g.find? frame.event with
    | none =>
      rw [handleText_of_unknown g session h he]
      exact ⟨.rejected, tells_reject session rfl, rfl⟩
    | some e =>
      refine ⟨Outcome.ofResult (e.invoke .webSocket (session.context g.factory) frame.inbound).value, ?_, ?_⟩
      · rw [value_handleText g session h he]
        exact tells_render session frame.event _
      · rw [handleText_of_found g session h he, Run.answered_bind, Run.answered_timed, quiet frame.event e he]
        rfl

end

end Gateway

end Socket

end RequestPipeline
