import RequestPipeline.Proofs.Dispatch.Passage
import RequestPipeline.Proofs.Server.Handling
import RequestPipeline.Samples.Rooms

/-!
# Which failure a server reports

A request may be wrong in several ways at once.  `Server.obstacles` lists what may keep it from its operation,
each found by itself: the caller is refused, the body is not read, there is no route, the body is no document
for the route, and the query and the body are refused by the operation.

`failure_precedence`: **the first of these is reported, and then the operation is not called; if there is none,
the operation is called, once, and its result is the answer, or that it takes too long.**  Only the health, the
metrics and a handshake are answered without the pipeline.
-/

namespace RequestPipeline

open Json (Value Members)
open Validation (validate)

/-- why something is refused, if it is -/
def refusal? {α : Type} : Except Failure α → Option Failure
  | .error f => some f
  | .ok _ => none

theorem refusal?_eq_none_iff {α : Type} {x : Except Failure α} : refusal? x = none ↔ ∃ a, x = .ok a := by
  cases x with
  | error f => exact ⟨fun h => (by cases h), fun ⟨_, h⟩ => (by cases h)⟩
  | ok a => exact ⟨fun _ => ⟨a, rfl⟩, fun _ => rfl⟩

namespace Server

/-- the endpoint of an operation and a limit of its bodies -/
def endpointOf (route : Operation × Nat) : HttpEndpoint := ⟨route.1.endpoint, route.2⟩

section
variable (s : Server) (route : Option (Operation × Nat)) (r : IncomingRequest) (fresh : CorrelationId)

def context : Option RequestContext := s.contextOf r fresh (s.caller r fresh).toOption.join

def query : Members := Query.parse (r.target.query.getD "")

/-- the document in the body of a request, for a route with a limit: its size, its media type and its text are
checked -/
def document (max : Nat) : Except Failure (Option Value) :=
  (RequestPipeline.readBody max (s.correlated r fresh).headers (s.correlated r fresh).body).mapError
    ExtractionFault.failure

/-- what may keep a request from the operation of its route, in the order in which it is reported -/
def obstacles : List (Option Failure) :=
  [ -- the caller is refused
    refusal? (s.caller r fresh),
    -- the body is not read
    s.unread? r,
    -- there is no route
    if route.isNone then some (noRoute (s.correlated r fresh)) else none,
    -- the body is no document for the route
    route.bind fun (_, max) => refusal? (s.document r fresh max),
    -- the query is refused
    route.bind fun (op, _) => refusal? (validate op.query (.object (query r)) (s.context r fresh)),
    -- the body is refused; no body is validated as null, without a context
    route.bind fun (op, max) => (s.document r fresh max).toOption.bind fun body =>
      refusal? (validate op.body (body.getD .null) (body.bind fun _ => s.context r fresh)) ]

def handshake : Response :=
  match ((r.withBody []).upgrade s.factory s.authenticator [] fresh).1 with
  | .ok upgrade => upgrade.response
  | .error response => response

/-- what a server does about a request for an operation, or for no route -/
structure Precedence (uptime : Nat) : Prop where
  health : r.Gets healthPath → s.handle r fresh uptime = pure (s.health.response uptime)
  metrics : ∀ m, s.metrics = some m → r.Gets metricsPath →
    s.handle r fresh uptime = pure (metricsResponse m)
  handshake : ¬ s.Shows r → s.Upgrades r → s.handle r fresh uptime = pure (s.handshake r fresh)
  /-- the first obstacle is reported, and then no operation is called -/
  obstructed : ¬ s.Shows r → ¬ s.Upgrades r → ∀ f, (s.obstacles route r fresh).findSome? id = some f →
    (s.handle r fresh uptime).observed = ([], s.report r fresh f)
  /-- without an obstacle the operation of the route is called, once, with what is bound -/
  served : ¬ s.Shows r → ¬ s.Upgrades r → (s.obstacles route r fresh).findSome? id = none →
    ∃ op max body input, route = some (op, max) ∧ s.document r fresh max = .ok body ∧
      Inbound.Binds ⟨query r, body⟩ op (s.context r fresh) input ∧
      (s.handle r fresh uptime).observed = ([⟨op.name, s.context r fresh, input⟩],
        s.echo r fresh
          (if (op.call (s.context r fresh) input).delay ≤ s.options.requestTimeout then
            HttpEndpoint.render (s.requestId r fresh)
              ((op.call (s.context r fresh) input).result.map fun reply => reply.filter.outgoing)
          else .failure s.tooSlow (s.requestId r fresh)))

end

/-! ## an operation behind its endpoint -/

section
variable {s : Server} {r : IncomingRequest} {fresh : CorrelationId} {op : Operation} {max : Nat}
  {context : Option RequestContext}

theorem inbound_endpointOf : (endpointOf (op, max)).inbound (s.correlated r fresh)
    = (s.document r fresh max).map fun body => ⟨query r, body⟩ := by
  unfold HttpEndpoint.inbound document endpointOf
  dsimp only
  cases RequestPipeline.readBody max (s.correlated r fresh).headers (s.correlated r fresh).body <;> rfl

theorem invoke_of_fault {f : Failure} (h : s.document r fresh max = .error f) :
    (endpointOf (op, max)).invoke context (s.correlated r fresh) = pure (.error f) := by
  refine HttpEndpoint.invoke_of_fault _ _ _ ?_
  rw [inbound_endpointOf, h]
  rfl

theorem invoke_of_document {body : Option Value} (h : s.document r fresh max = .ok body) :
    (endpointOf (op, max)).invoke context (s.correlated r fresh)
      = dispatch op .http context ⟨query r, body⟩ := by
  refine HttpEndpoint.invoke_of_inbound _ _ _ ?_
  rw [inbound_endpointOf, h]
  rfl

variable {requestId : CorrelationId}

/-- a request that is refused at once is never too slow -/
theorem observed_handleInTime_of_refused {e : HttpEndpoint} {request : Request} {f : Failure}
    (h : (e.invoke context request).observed = ([], .error f)) (he : (e.invoke context request).elapsed = 0) :
    (s.handleInTime e context requestId request).observed = ([], .failure f requestId) := by
  have hc : (e.invoke context request).called = [] := congrArg Prod.fst h
  have hv : (e.invoke context request).value = .error f := congrArg Prod.snd h
  rw [observed_handleInTime _ _ _ _ _ (Run.callsAtOnce_of_called_nil hc), hc, he, hv,
    if_pos (Nat.zero_le _)]
  rfl

section
variable {body : Option Value} (documented : s.document r fresh max = .ok body)
include documented

theorem observed_handleInTime_of_rejected {f : Failure} (h : op.accept context ⟨query r, body⟩ = .error f) :
    (s.handleInTime (endpointOf (op, max)) context requestId (s.correlated r fresh)).observed
      = ([], .failure f requestId) := by
  have hr : (endpointOf (op, max)).invoke context (s.correlated r fresh) = rejectInput f := by
    rw [invoke_of_document documented, dispatch_eq, h]
  exact observed_handleInTime_of_refused (by rw [hr]; rfl) (by rw [hr]; rfl)

theorem observed_handleInTime_of_accepted {input : Input}
    (h : op.accept context ⟨query r, body⟩ = .ok input) :
    (s.handleInTime (endpointOf (op, max)) context requestId (s.correlated r fresh)).observed
      = ([⟨op.name, context, input⟩],
          if (op.call context input).delay ≤ s.options.requestTimeout then
            HttpEndpoint.render requestId
              ((op.call context input).result.map fun reply => reply.filter.outgoing)
          else .failure s.tooSlow requestId) := by
  have ha : (endpointOf (op, max)).invoke context (s.correlated r fresh)
      = op.answer .http context input := by
    rw [invoke_of_document documented, dispatch_eq, h]
  have hv : op.outcome .http context input
      = (op.call context input).result.map fun reply => reply.filter.outgoing := by
    unfold Operation.outcome
    cases (op.call context input).result <;> rfl
  rw [observed_handleInTime _ _ _ _ _ (by rw [ha]; exact op.callsAtOnce_answer _ _ _), ha,
    op.called_answer, op.elapsed_answer, op.value_answer, hv]

end

/-- the obstacles behind a route, in their order -/
theorem observed_handleInTime_of_obstacle {f : Failure}
    (h : [refusal? (s.document r fresh max), refusal? (validate op.query (.object (query r)) context),
        (s.document r fresh max).toOption.bind fun body =>
          refusal? (validate op.body (body.getD .null) (body.bind fun _ => context))].findSome? id = some f) :
    (s.handleInTime (endpointOf (op, max)) context requestId (s.correlated r fresh)).observed
      = ([], .failure f requestId) := by
  cases hd : s.document r fresh max with
  | error g =>
    rw [hd] at h
    obtain rfl : g = f := Option.some.inj h
    exact observed_handleInTime_of_refused (by rw [invoke_of_fault hd]; rfl) (by rw [invoke_of_fault hd]; rfl)
  | ok body =>
    rw [hd] at h
    refine observed_handleInTime_of_rejected hd ?_
    cases hq : validate op.query (.object (query r)) context with
    | error g =>
      rw [hq] at h
      obtain rfl : g = f := Option.some.inj h
      exact accept_of_refusedQuery hq
    | ok q =>
      have hb : refusal? (validate op.body (body.getD .null) (body.bind fun _ => context)) = some f := by
        rw [hq] at h
        exact List.findSome?_singleton.symm.trans h
      cases hb' : validate op.body (body.getD .null) (body.bind fun _ => context) with
      | error g =>
        rw [hb'] at hb
        obtain rfl : g = f := Option.some.inj hb
        exact accept_of_refusedBody hq hb'
      | ok b =>
        rw [hb'] at hb
        cases hb

end

/-! ## the first obstacle -/

section
variable {s : Server} {r : IncomingRequest} {fresh : CorrelationId} {route : Option (Operation × Nat)}

theorem context_of_identified {p : Option Principal} (h : s.caller r fresh = .ok p) :
    s.context r fresh = s.contextOf r fresh p := by
  unfold context
  rw [h]
  rfl

theorem observed_serveHttp_of_obstacle {f : Failure}
    (h : (s.obstacles route r fresh).findSome? id = some f) :
    (s.serveHttp (route.map endpointOf) r fresh).observed = ([], s.report r fresh f) := by
  unfold obstacles at h
  cases hc : s.caller r fresh with
  | error g =>
    rw [hc] at h
    obtain rfl : g = f := Option.some.inj h
    exact observed_serveHttp_of_refused hc _
  | ok p =>
    cases hu : s.unread? r with
    | some g =>
      rw [hc, hu] at h
      obtain rfl : g = f := Option.some.inj h
      exact observed_serveHttp_of_unread hc hu _
    | none =>
      rw [hc, hu] at h
      cases route with
      | none =>
        obtain rfl : noRoute (s.correlated r fresh) = f := Option.some.inj h
        exact observed_serveHttp_of_unrouted hc hu
      | some route =>
        obtain ⟨op, max⟩ := route
        rw [Option.map_some, observed_serveHttp_of_routed hc hu, ← context_of_identified hc,
          observed_handleInTime_of_obstacle h]
        rfl

theorem observed_serveHttp_of_clear (h : (s.obstacles route r fresh).findSome? id = none) :
    ∃ op max body input, route = some (op, max) ∧ s.document r fresh max = .ok body ∧
      Inbound.Binds ⟨query r, body⟩ op (s.context r fresh) input ∧
      (s.serveHttp (route.map endpointOf) r fresh).observed = ([⟨op.name, s.context r fresh, input⟩],
        s.echo r fresh
          (if (op.call (s.context r fresh) input).delay ≤ s.options.requestTimeout then
            HttpEndpoint.render (s.requestId r fresh)
              ((op.call (s.context r fresh) input).result.map fun reply => reply.filter.outgoing)
          else .failure s.tooSlow (s.requestId r fresh))) := by
  simp only [obstacles, List.findSome?_eq_none_iff, List.forall_mem_cons, id] at h
  obtain ⟨hc, hu, hr, hd, hq, hb, -⟩ := h
  obtain ⟨p, hc⟩ := refusal?_eq_none_iff.mp hc
  cases route with
  | none => cases hr
  | some route =>
    obtain ⟨op, max⟩ := route
    obtain ⟨body, hd⟩ := refusal?_eq_none_iff.mp hd
    obtain ⟨q, hq⟩ := refusal?_eq_none_iff.mp hq
    simp only [Option.bind_some, hd, Except.toOption] at hb
    obtain ⟨b, hb⟩ := refusal?_eq_none_iff.mp hb
    have hi : Inbound.Binds ⟨query r, body⟩ op (s.context r fresh) ⟨q, b⟩ := ⟨hq, hb⟩
    refine ⟨op, max, body, ⟨q, b⟩, rfl, hd, hi, ?_⟩
    rw [Option.map_some, observed_serveHttp_of_routed hc hu, ← context_of_identified hc]
    exact congrArg (Prod.map id (s.echo r fresh))
      (observed_handleInTime_of_accepted hd (accept_of_binds hi))

end

/-! ## the whole -/

theorem handle_of_upgrades {s : Server} {r : IncomingRequest} (h : ¬ s.Shows r) (hu : s.Upgrades r)
    (fresh : CorrelationId) (uptime : Nat) : s.handle r fresh uptime = pure (s.handshake r fresh) := by
  obtain ⟨g, hg⟩ := destination_of_upgrades h hu
  unfold handle handshake
  rw [hg]
  dsimp only
  cases ((r.withBody []).upgrade s.factory s.authenticator [] fresh).1 <;> rfl

theorem handle_of_pipeline {s : Server} {r : IncomingRequest} (h : ¬ s.Shows r) (hu : ¬ s.Upgrades r)
    (fresh : CorrelationId) (uptime : Nat) : s.handle r fresh uptime
      = s.serveHttp (s.router.endpoints.lookup (r.method, r.target.path)) r fresh := by
  unfold handle
  rw [destination_of_pipeline h hu]

/-- **The first obstacle is what a server reports, and without one it calls the operation, once.** -/
theorem failure_precedence (s : Server) (r : IncomingRequest) (fresh : CorrelationId) (uptime : Nat)
    (route : Option (Operation × Nat))
    (routed : s.router.endpoints.lookup (r.method, r.target.path) = route.map endpointOf) :
    s.Precedence route r fresh uptime where
  health h := by
    unfold handle
    rw [destination_of_health h]
  metrics m hm h := by
    unfold handle
    rw [destination_of_metrics hm h]
  handshake h hu := handle_of_upgrades h hu fresh uptime
  obstructed h hu f hf := by
    rw [handle_of_pipeline h hu, routed]
    exact observed_serveHttp_of_obstacle hf
  served h hu hn := by
    rw [handle_of_pipeline h hu, routed]
    exact observed_serveHttp_of_clear hn

/-- a server that makes tickets of at most 16 bytes, and reads bodies of at most 32 -/
def tickets : Server where
  options := { ServerOptions.default with maxBody := 32 }
  router := ⟨[(("POST", "/tickets"), endpointOf (Samples.create, 16))], []⟩
  factory := .default
  authenticator := .byHeader
  limits := .default
  health := .start "tickets" "1.0.0"
  metrics := none

/-- a request by nobody with 33 bytes, before the connection failed -/
def excess : IncomingRequest :=
  ⟨"POST", ⟨"/tickets", none⟩, [("x-principal-id", [120])], [List.replicate 33 123], .broken⟩

/-- a caller that is refused is not told that the body is too large -/
theorem failure_precedence_tickets : tickets.unread? excess = some (tooLarge 32) ∧
    (tickets.handle excess ⟨7⟩ 0).observed
      = ([], tickets.report excess ⟨7⟩ (.unauthorized "malformed principal id")) :=
  ⟨rfl, (failure_precedence tickets excess ⟨7⟩ 0 (some (Samples.create, 16)) rfl).obstructed (by decide)
    (by decide) _ rfl⟩

end Server

end RequestPipeline
