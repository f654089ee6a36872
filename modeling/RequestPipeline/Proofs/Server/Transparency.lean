import RequestPipeline.Proofs.Server.Precedence

/-!
# What a server adds to an endpoint

A server reads the body of a request before the pipeline and gives the endpoint behind it some time.  For a request
whose body is there, within the limit of the server, and an operation that is done in time, neither is to be seen:

* `Run.within_bind_of_le`     a limit that is kept does nothing;
* `respond_standard_congr`    the standard pipeline is the same around handlers that agree where it leads;
* `handle_eq_serve`           **the server does what the endpoint does through a pipeline of its own**, with the same
  response and the same calls, whatever the limit of the endpoint is.
-/

namespace RequestPipeline

/-! ## runs -/

namespace Run
variable {α β : Type}

/-- a limit that is kept does nothing -/
theorem within_bind_of_le {r : Run α} {limit : Nat} (h : r.elapsed ≤ limit) (f : Option α → Run β) :
    (r.within limit >>= f) = r >>= fun a => f (some a) := by
  unfold within
  rw [if_pos h]
  rfl

end Run

/-! ## the standard pipeline -/

namespace Pipeline

variable {factory : ContextFactory} {authenticator : Authenticator}
  {fresh fresh' start start' requestId : CorrelationId} {handler handler' : Handler} {request : Request}
  {headers : Headers}

/-- the standard pipeline is the same around handlers that agree where it leads -/
theorem respond_standard_congr
    (correlated : factory.correlate fresh request.headers = (requestId, headers))
    (correlated' : factory.correlate fresh' request.headers = (requestId, headers))
    (agree : ∀ p, authenticator headers = .ok p →
      handler ⟨requestId, p, factory.create p requestId .http⟩ { request with headers := headers }
        = handler' ⟨requestId, p, factory.create p requestId .http⟩ { request with headers := headers }) :
    (standard factory authenticator fresh).respond handler (.start start) request
      = (standard factory authenticator fresh').respond handler' (.start start') request := by
  unfold respond
  cases hc : authenticator headers with
  | error f =>
    rw [process_standard_of_refused correlated hc, process_standard_of_refused correlated' hc]
    rfl
  | ok p =>
    rw [process_standard_of_identified correlated hc, process_standard_of_identified correlated' hc, agree p hc]

end Pipeline

/-- requests with one id have one form with it -/
theorem ContextFactory.correlate_congr {factory : ContextFactory} {headers : Headers}
    {fresh fresh' : CorrelationId}
    (h : (factory.correlate fresh headers).1 = (factory.correlate fresh' headers).1) :
    factory.correlate fresh headers = factory.correlate fresh' headers := by
  cases hi : factory.incoming? headers with
  | some u => rw [correlate_of_incoming hi, correlate_of_incoming hi]
  | none =>
    rw [correlate_of_none hi, correlate_of_none hi] at h
    rw [show fresh = fresh' from h]

namespace Server

/-! ## nothing in the way -/

section
variable {s : Server} {r : IncomingRequest} {fresh fresh' : CorrelationId} {e : HttpEndpoint}

theorem handle_of_matched (shown : ¬ s.Shows r)
    (matched : s.router.find? r.method r.target.path r.isUpgrade = some (.http e)) (uptime : Nat) :
    s.handle r fresh uptime = s.serveHttp (some e) r fresh := by
  have hd : s.destination r = .http (some e) := by
    rw [destination_of_not_shows shown]
    unfold destination.routed
    rw [matched]
  unfold handle
  rw [hd]

theorem readBody_of_complete (complete : r.bodyEnd = .complete)
    (fits : r.parts.flatten.length ≤ s.options.maxBody) : s.readBody r = pure (.ok r.parts.flatten) := by
  have hc : collect s.options.maxBody r.bodyEnd [] r.parts = some (.ok r.parts.flatten) := by
    rw [collect_of_le (by rwa [List.length_nil, Nat.zero_add]), complete]
    rfl
  unfold readBody
  rw [hc]

theorem serveHttp_of_complete (complete : r.bodyEnd = .complete)
    (fits : r.parts.flatten.length ≤ s.options.maxBody) : s.serveHttp (some e) r fresh
      = (s.pipeline fresh).respond (s.handler (some e) none) (.start fresh)
          (r.withBody r.parts.flatten) := by
  unfold serveHttp
  rw [readBody_of_complete complete fits, Run.pure_bind]

/-- an endpoint that is done in time is not hurried -/
theorem handleInTime_of_le {context : Option RequestContext} {id : CorrelationId} {request : Request}
    (h : (e.invoke context request).elapsed ≤ s.options.requestTimeout) :
    s.handleInTime e context id request = e.handle context id request := by
  have hh : (e.handle context id request).elapsed ≤ s.options.requestTimeout := by
    rwa [HttpEndpoint.elapsed_handle]
  unfold handleInTime
  rw [Run.within_bind_of_le hh]
  exact Run.bind_pure _

/-- **The server does what the endpoint does through a pipeline of its own**, if both give the request one id. -/
theorem handle_eq_serve (shown : ¬ s.Shows r)
    (matched : s.router.find? r.method r.target.path r.isUpgrade = some (.http e))
    (complete : r.bodyEnd = .complete) (fits : r.parts.flatten.length ≤ s.options.maxBody)
    (sameId : s.requestId r fresh = s.requestId r fresh')
    (inTime : ∀ p, s.caller r fresh = .ok p →
      (e.invoke (s.contextOf r fresh p) (s.correlated r fresh)).elapsed ≤ s.options.requestTimeout)
    (start : CorrelationId) (uptime : Nat) : s.handle r fresh uptime
      = e.serve (.standard s.factory s.authenticator fresh') (r.withBody r.parts.flatten) start := by
  rw [handle_of_matched shown matched, serveHttp_of_complete complete fits]
  refine Pipeline.respond_standard_congr (Prod.eta _).symm ?_ fun p identified => ?_
  · have same := ContextFactory.correlate_congr sameId
    exact same.symm
  · have unhurried : s.handleInTime e _ (s.requestId r fresh) _ = _ :=
      handleInTime_of_le (inTime p identified)
    show (do
        let response ← s.handleInTime e (s.contextOf r fresh p) (s.requestId r fresh) (s.correlated r fresh)
        pure (_, response)) = _
    rw [unhurried]
    rfl

end

/-- a ticket of twenty bytes in two parts, which is more than its route takes, from a caller with an id -/
def parted : IncomingRequest :=
  ⟨"POST", ⟨"/tickets", none⟩,
    [("x-principal-id", Utf8.ofText "7"), ("content-type", Utf8.ofText "application/json"),
      ("x-request-id", Utf8.ofText "67e55044-10b1-426f-9247-bb680e5fe0c8")],
    [List.replicate 9 123, List.replicate 11 125], .complete⟩

theorem handle_eq_serve_parted : ¬ tickets.Shows parted ∧
    tickets.router.find? "POST" "/tickets" parted.isUpgrade = some (.http (endpointOf (Samples.create, 16))) ∧
    parted.parts.flatten.length ≤ 32 ∧ tickets.requestId parted ⟨7⟩ = tickets.requestId parted ⟨8⟩ ∧
    tickets.handle parted ⟨7⟩ 0 = (endpointOf (Samples.create, 16)).serve (.standard .default .byHeader ⟨8⟩)
      (parted.withBody (List.replicate 9 123 ++ List.replicate 11 125)) ⟨9⟩ := by
  have shown : ¬ tickets.Shows parted := by decide
  have sameId : tickets.requestId parted ⟨7⟩ = tickets.requestId parted ⟨8⟩ := by decide
  have inTime : ∀ p, tickets.caller parted ⟨7⟩ = .ok p →
      ((endpointOf (Samples.create, 16)).invoke (tickets.contextOf parted ⟨7⟩ p)
        (tickets.correlated parted ⟨7⟩)).elapsed ≤ tickets.options.requestTimeout :=
    fun _ _ => Nat.zero_le _
  exact ⟨shown, rfl, by decide, sameId, handle_eq_serve shown rfl rfl (by decide) sameId inTime ⟨9⟩ 0⟩

end Server

end RequestPipeline
