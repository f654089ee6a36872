import RequestPipeline.Proofs.Serving.Answers

/-!
# Behind the standard pipeline

A stage of a pipeline answers a request, or passes it on and treats what comes back.  The standard pipeline answers a
caller whom it refuses in its second stage (`process_standard_of_refused`), and any other request comes to the
handler with its id and its caller (`process_standard_of_identified`); in either case the response goes out with the
id of the request in its header.  The stages make no calls themselves, so what is seen of the standard pipeline is a
refusal without a call, or what is seen of the handler behind it.
-/

namespace RequestPipeline

/-- the response with the id of its request in the correlation header -/
def ContextFactory.echo (factory : ContextFactory) (id : CorrelationId) (response : Response) : Response :=
  response.withHeader factory.header (Utf8.encode id.chars)

/-- that a stage is visited is no call -/
theorem Run.observed_visited {α : Type} (name : String) (r : Run α) :
    (do Run.note (.visited name); r).observed = r.observed := by
  rw [Run.observed_bind]
  rfl

namespace Pipeline

/-! ## one stage -/

section
variable {m : Middleware} {ms : Pipeline} {handler : Handler} {state state' : Exchange}
  {request request' : Request}

theorem process_of_answer {response : Response} (h : m.process state request = .answer state' response) :
    process (m :: ms) handler state request
      = (do Run.note (.visited m.name); pure (state', response)) := by
  rw [process_cons]
  unfold Middleware.around
  rw [h]
  rfl

theorem process_of_pass {back : Exchange → Response → Exchange × Response}
    (h : m.process state request = .pass state' request' back) :
    process (m :: ms) handler state request = (do
      Run.note (.visited m.name)
      let (state, response) ← process ms handler state' request'
      pure (back state response)) := by
  rw [process_cons]
  unfold Middleware.around
  rw [h, Verdict.pass, Run.pure_bind]

end

/-! ## the three stages -/

section
variable {factory : ContextFactory} {authenticator : Authenticator} {fresh start requestId : CorrelationId}
  {handler : Handler} {request : Request} {headers : Headers}

theorem process_correlation_eq (state : Exchange) :
    (Middleware.correlation factory fresh).process state request
      = .pass { state with correlationId := (factory.correlate fresh request.headers).1 }
          { request with headers := (factory.correlate fresh request.headers).2 }
          fun state response =>
            (state, factory.echo (factory.correlate fresh request.headers).1 response) := rfl

/-- whatever id an exchange starts with, it goes on with the id of the request -/
theorem process_correlation (correlated : factory.correlate fresh request.headers = (requestId, headers)) :
    (Middleware.correlation factory fresh).process (.start start) request
      = .pass (.start requestId) { request with headers := headers }
          fun state response => (state, factory.echo requestId response) := by
  rw [process_correlation_eq, correlated]
  rfl

theorem process_identity_of_refused {f : Failure} {state : Exchange}
    (refused : authenticator request.headers = .error f) :
    (Middleware.identity authenticator).process state request
      = .answer state (.failure f state.correlationId) := by
  unfold Middleware.identity
  dsimp only
  rw [refused]

theorem process_identity_of_identified {p : Option Principal}
    (identified : authenticator request.headers = .ok p) :
    (Middleware.identity authenticator).process (.start requestId) request
      = .pass { Exchange.start requestId with principal := p } request Prod.mk := by
  unfold Middleware.identity
  dsimp only
  rw [identified]
  cases p <;> rfl

theorem process_context (p : Option Principal) :
    (Middleware.context factory).process { Exchange.start requestId with principal := p } request
      = .pass ⟨requestId, p, factory.create p requestId .http⟩ request Prod.mk := by
  unfold Middleware.context
  dsimp only
  rw [show (Exchange.start requestId).context = none from rfl, Option.or_none]
  rfl

variable (correlated : factory.correlate fresh request.headers = (requestId, headers))
include correlated

/-- a caller who is refused is answered in the second stage, and the answer leaves through the first -/
theorem process_standard_of_refused {f : Failure} (refused : authenticator headers = .error f) (state : Exchange) :
    (standard factory authenticator fresh).process handler state request = (do
      Run.note (.visited "correlation")
      Run.note (.visited "identity")
      pure ({ state with correlationId := requestId }, factory.echo requestId (.failure f requestId))) := by
  unfold standard
  rw [process_of_pass (process_correlation_eq state), correlated,
    process_of_answer (process_identity_of_refused refused), bind_assoc, pure_bind]
  rfl

/-- any other request passes the three stages and comes to the handler with its id and its caller -/
theorem process_standard_of_identified {p : Option Principal} (identified : authenticator headers = .ok p) :
    (standard factory authenticator fresh).process handler (.start start) request = (do
      Run.note (.visited "correlation")
      Run.note (.visited "identity")
      Run.note (.visited "context")
      let (state, response) ← handler ⟨requestId, p, factory.create p requestId .http⟩
        { request with headers := headers }
      pure (state, factory.echo requestId response)) := by
  unfold standard
  rw [process_of_pass (process_correlation correlated),
    process_of_pass (process_identity_of_identified identified), process_of_pass (process_context p), process_nil]
  simp only [bind_assoc, pure_bind]
  rfl

/-- a request that is refused makes no call -/
theorem observed_respond_of_refused {f : Failure} (refused : authenticator headers = .error f) :
    ((standard factory authenticator fresh).respond handler (.start fresh) request).observed
      = ([], factory.echo requestId (.failure f requestId)) := by
  unfold respond
  rw [process_standard_of_refused correlated refused]
  rfl

/-- any other request makes the calls of the handler -/
theorem observed_respond_of_identified {p : Option Principal} (identified : authenticator headers = .ok p) :
    ((standard factory authenticator fresh).respond handler (.start fresh) request).observed
      = (handler ⟨requestId, p, factory.create p requestId .http⟩
          { request with headers := headers }).observed.map id fun r => factory.echo requestId r.2 := by
  unfold respond
  rw [process_standard_of_identified correlated identified]
  simp only [bind_assoc, pure_bind, Run.observed_visited]
  exact Run.observed_bind_pure _ _

end

end Pipeline

end RequestPipeline
