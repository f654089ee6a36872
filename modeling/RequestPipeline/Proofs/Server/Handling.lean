import Mathlib.Data.List.Basic
import RequestPipeline.Proofs.Serving.Standard
import RequestPipeline.Server.Server

/-!
# How a server handles a request

A request goes to the health, the metrics, a gateway, or through the pipeline (`destination_of_pipeline`), and
there one thing after the other may be in its way:

* `observed_serveHttp_of_refused`   the caller is refused;
* `observed_serveHttp_of_unread`    the body was not read, which `Server.unread?` says by the parts of the body;
* `observed_serveHttp_of_unrouted`  there is no route;
* `observed_serveHttp_of_routed`    the endpoint has the time of a request to answer.

An operation is called before any time passes, so that it is called even when it takes too long
(`called_handleInTime`).
-/

namespace RequestPipeline

open Socket (Gateway)

/-! ## calls in time -/

namespace Run
variable {α β : Type}

/-- whether calls are made at the beginning of a run only -/
def CallsAtOnce (r : Run α) : Prop := ∀ x ∈ r.log, x.2.call? ≠ none → x.1 = 0

theorem called_eq_filterMap (r : Run α) : r.called = r.log.filterMap fun x => x.2.call? := by
  unfold called events
  rw [List.filterMap_map]
  rfl

theorem callsAtOnce_of_called_nil {r : Run α} (h : r.called = []) : r.CallsAtOnce := by
  intro x hx hc
  rw [called_eq_filterMap, List.filterMap_eq_nil_iff] at h
  exact absurd (h x hx) hc

theorem CallsAtOnce.bind {r : Run α} (h : r.CallsAtOnce) {f : α → Run β} (hf : (f r.value).called = []) :
    (r >>= f).CallsAtOnce := by
  intro x hx hc
  rcases List.mem_append.mp hx with hx | hx
  · exact h x hx hc
  · obtain ⟨y, hy, rfl⟩ := List.mem_map.mp hx
    rw [called_eq_filterMap, List.filterMap_eq_nil_iff] at hf
    exact absurd (hf y hy) hc

/-- what is called at once is called before any limit -/
theorem CallsAtOnce.called_within {r : Run α} (h : r.CallsAtOnce) (limit : Nat) :
    (r.within limit).called = r.called := by
  rw [called_eq_filterMap, called_eq_filterMap]
  unfold within
  split
  · rfl
  · rw [List.filterMap_filter]
    refine List.filterMap_congr fun x hx => ?_
    by_cases hc : x.2.call? = none
    · rw [hc, ite_self]
    · exact if_pos (decide_eq_true (h x hx hc ▸ Nat.zero_le limit))

theorem value_within (r : Run α) (limit : Nat) :
    (r.within limit).value = if r.elapsed ≤ limit then some r.value else none := by
  unfold within
  split <;> rfl

end Run

section
variable (op : Operation) (host : Host) (context : Option RequestContext)

theorem Operation.callsAtOnce_perform (input : Input) : (op.perform context input).CallsAtOnce := by
  intro x hx _
  have hl : (op.perform context input).log
      = [(0, .called op.name context input.query input.body)] := rfl
  rw [hl] at hx
  exact congrArg Prod.fst (List.mem_singleton.mp hx)

theorem Operation.elapsed_perform (input : Input) :
    (op.perform context input).elapsed = (op.call context input).delay := Nat.zero_add _

theorem elapsed_send (filtered : Filtered) : (filtered.send host).elapsed = 0 := by
  cases host <;> rfl

theorem Operation.callsAtOnce_answer (input : Input) : (op.answer host context input).CallsAtOnce := by
  refine (op.callsAtOnce_perform context input).bind ?_
  cases (op.perform context input).value with
  | error f => rfl
  | ok reply => exact called_send _ _

theorem Operation.elapsed_answer (input : Input) :
    (op.answer host context input).elapsed = (op.call context input).delay := by
  unfold answer
  rw [Run.elapsed_bind, elapsed_perform]
  cases (op.perform context input).value with
  | error f => rfl
  | ok reply => exact congrArg (_ + ·) (elapsed_send host _)

end

/-! ## bodies -/

namespace Server

/-- the failure of a request whose body is longer than a server takes -/
def tooLarge (max : Nat) : Failure :=
  .invalidInput "body" (some ("payload too large: max " ++ String.ofList (Text.ofNat max) ++ " bytes"))

/-- why the body of a request is not read, if it is not: it is too large, whatever comes of it then, or it does
not end -/
def unread? (s : Server) (r : IncomingRequest) : Option Failure :=
  if s.options.maxBody < r.parts.flatten.length then some (tooLarge s.options.maxBody)
  else
    match r.bodyEnd with
    | .complete => none
    | .stalled => some (.timeout "request body not received in time")
    | .broken => some (.invalidInput "body" (some "failed to read request body"))

section
variable {max : Nat} {bodyEnd : BodyEnd} {body : Bytes} {parts : List Bytes}

theorem collect_of_lt (hb : body.length ≤ max) (h : max < body.length + parts.flatten.length) :
    collect max bodyEnd body parts = some (.error (tooLarge max)) := by
  induction parts generalizing body with
  | nil => exact absurd hb (Nat.not_le_of_lt h)
  | cons part parts ih =>
    unfold collect
    by_cases hp : max < body.length + part.length
    · rw [if_pos hp]
      rfl
    · rw [if_neg hp]
      rw [List.flatten_cons, List.length_append] at h
      exact ih (by rw [List.length_append]; omega) (by rw [List.length_append]; omega)

theorem collect_of_le (h : body.length + parts.flatten.length ≤ max) :
    collect max bodyEnd body parts = collect max bodyEnd (body ++ parts.flatten) [] := by
  induction parts generalizing body with
  | nil => rw [List.flatten_nil, List.append_nil]
  | cons part parts ih =>
    rw [List.flatten_cons, List.length_append] at h
    rw [collect, if_neg (by omega), ih (by rw [List.length_append]; omega), List.flatten_cons,
      List.append_assoc]

end

section
variable (s : Server) (r : IncomingRequest) (fresh : CorrelationId)

theorem observed_readBody : (s.readBody r).observed = ([], match s.unread? r with
    | some f => .error f
    | none => .ok r.parts.flatten) := by
  unfold readBody unread?
  by_cases h : s.options.maxBody < r.parts.flatten.length
  · rw [collect_of_lt (Nat.zero_le _) (by rwa [List.length_nil, Nat.zero_add]), if_pos h]
    rfl
  · rw [collect_of_le (by rw [List.length_nil]; omega), if_neg h]
    cases r.bodyEnd <;> rfl

/-! ## what is known about a request -/

def requestId : CorrelationId := (s.factory.correlate fresh r.headers).1

/-- a request with its id in the header and all of its body -/
def correlated : Request :=
  ⟨r.method, r.target, (s.factory.correlate fresh r.headers).2, r.parts.flatten⟩

def caller : Except Failure (Option Principal) := s.authenticator (s.correlated r fresh).headers

def contextOf (p : Option Principal) : Option RequestContext :=
  s.factory.create p (s.requestId r fresh) .http

/-- the response with the id of the request in its header -/
def echo (response : Response) : Response := s.factory.echo (s.requestId r fresh) response

def report (f : Failure) : Response := s.echo r fresh (.failure f (s.requestId r fresh))

end

/-! ## the pipeline -/

section
variable {s : Server} {r : IncomingRequest} {fresh : CorrelationId}

theorem observed_serveHttp (endpoint : Option HttpEndpoint) : (s.serveHttp endpoint r fresh).observed
    = ((s.pipeline fresh).respond (s.handler endpoint (s.unread? r)) (.start fresh)
        (r.withBody (match s.unread? r with
          | some _ => []
          | none => r.parts.flatten))).observed := by
  have hc := congrArg Prod.fst (s.observed_readBody r)
  have hv := congrArg Prod.snd (s.observed_readBody r)
  unfold serveHttp
  rw [Run.observed_bind, show (s.readBody r).called = [] from hc,
    show (s.readBody r).value = _ from hv]
  cases s.unread? r <;> rfl

theorem observed_serveHttp_of_refused {f : Failure} (refused : s.caller r fresh = .error f)
    (endpoint : Option HttpEndpoint) :
    (s.serveHttp endpoint r fresh).observed = ([], s.report r fresh f) := by
  rw [observed_serveHttp]
  exact Pipeline.observed_respond_of_refused rfl refused

variable {p : Option Principal} (identified : s.caller r fresh = .ok p)
include identified

theorem observed_serveHttp_of_unread {f : Failure} (unread : s.unread? r = some f)
    (endpoint : Option HttpEndpoint) :
    (s.serveHttp endpoint r fresh).observed = ([], s.report r fresh f) := by
  rw [observed_serveHttp, unread]
  exact Pipeline.observed_respond_of_identified rfl identified

variable (read : s.unread? r = none)
include read

theorem observed_serveHttp_of_unrouted :
    (s.serveHttp none r fresh).observed = ([], s.report r fresh (noRoute (s.correlated r fresh))) := by
  rw [observed_serveHttp, read]
  exact Pipeline.observed_respond_of_identified rfl identified

theorem observed_serveHttp_of_routed (e : HttpEndpoint) : (s.serveHttp (some e) r fresh).observed
    = (s.handleInTime e (s.contextOf r fresh p) (s.requestId r fresh) (s.correlated r fresh)).observed.map id
        (s.echo r fresh) := by
  rw [observed_serveHttp, read]
  refine (Pipeline.observed_respond_of_identified rfl identified).trans ?_
  unfold handler
  rw [Run.observed_bind_pure]
  rfl

end

/-! ## the time of a request -/

section
variable (s : Server) (e : HttpEndpoint) (context : Option RequestContext) (requestId : CorrelationId)
  (request : Request)

def tooSlow : Failure :=
  .timeout ("request exceeded " ++ String.ofList (Text.ofNat s.options.requestTimeout) ++ "ms")

theorem value_handleInTime : (s.handleInTime e context requestId request).value
    = if (e.invoke context request).elapsed ≤ s.options.requestTimeout then
        HttpEndpoint.render requestId (e.invoke context request).value
      else .failure s.tooSlow requestId := by
  unfold handleInTime
  rw [Run.value_bind, Run.value_within, HttpEndpoint.elapsed_handle]
  by_cases h : (e.invoke context request).elapsed ≤ s.options.requestTimeout
  · rw [if_pos h, if_pos h]
    rfl
  · rw [if_neg h, if_neg h]
    rfl

theorem called_handleInTime (h : (e.invoke context request).CallsAtOnce) :
    (s.handleInTime e context requestId request).called = (e.invoke context request).called := by
  have hh : (e.handle context requestId request).CallsAtOnce :=
    Run.CallsAtOnce.bind (r := (e.invoke context request).timed) h rfl
  unfold handleInTime
  rw [Run.called_bind, hh.called_within, HttpEndpoint.called_handle]
  refine (congrArg (_ ++ ·) ?_).trans (List.append_nil _)
  cases ((e.handle context requestId request).within s.options.requestTimeout).value <;> rfl

theorem observed_handleInTime (h : (e.invoke context request).CallsAtOnce) :
    (s.handleInTime e context requestId request).observed
      = ((e.invoke context request).called,
          if (e.invoke context request).elapsed ≤ s.options.requestTimeout then
            HttpEndpoint.render requestId (e.invoke context request).value
          else .failure s.tooSlow requestId) := by
  unfold Run.observed
  rw [s.called_handleInTime e context requestId request h, value_handleInTime]

end

/-! ## destinations -/

end Server

/-- whether a path is asked for -/
def IncomingRequest.Gets (r : IncomingRequest) (path : String) : Prop :=
  r.method = "GET" ∧ r.target.path = path

instance (r : IncomingRequest) (path : String) : Decidable (r.Gets path) :=
  inferInstanceAs (Decidable (_ ∧ _))

namespace Server

section
variable (s : Server) (r : IncomingRequest)

/-- whether a request is answered by the health or the metrics -/
def Shows : Prop := r.Gets healthPath ∨ s.metrics.isSome ∧ r.Gets metricsPath

/-- whether a request asks for a WebSocket where there is a gateway -/
def Upgrades : Prop :=
  r.method = "GET" ∧ r.isUpgrade = true ∧ (s.router.gateways.lookup r.target.path).isSome = true

instance : Decidable (s.Shows r) := inferInstanceAs (Decidable (_ ∨ _))

instance : Decidable (s.Upgrades r) := inferInstanceAs (Decidable (_ ∧ _))

end

section
variable {s : Server} {r : IncomingRequest}

theorem destination_of_health (h : r.Gets healthPath) : s.destination r = .health := if_pos h

theorem destination_of_metrics {m : Telemetry.Recorder} (hm : s.metrics = some m)
    (h : r.Gets metricsPath) : s.destination r = .metrics m := by
  have hn : ¬ (r.method = "GET" ∧ r.target.path = healthPath) := by
    rintro ⟨-, hp⟩
    exact absurd (h.2.symm.trans hp) (by decide)
  unfold destination
  rw [if_neg hn, hm]
  exact if_pos h

theorem destination_of_not_shows (h : ¬ s.Shows r) : s.destination r = destination.routed s r := by
  have hn : ¬ (r.method = "GET" ∧ r.target.path = healthPath) := fun hh => h (.inl hh)
  unfold destination
  rw [if_neg hn]
  cases hm : s.metrics with
  | none => rfl
  | some m => exact if_neg fun hh => h (.inr ⟨by rw [hm]; rfl, hh⟩)

theorem destination_of_upgrades (h : ¬ s.Shows r) (hu : s.Upgrades r) :
    ∃ g, s.destination r = .webSocket g := by
  obtain ⟨hm, hu, hg⟩ := hu
  obtain ⟨g, hg⟩ := Option.isSome_iff_exists.mp hg
  refine ⟨g, ?_⟩
  rw [destination_of_not_shows h]
  unfold destination.routed Router.find?
  rw [if_pos ⟨hu, hm⟩, hg]

theorem destination_of_pipeline (h : ¬ s.Shows r) (hu : ¬ s.Upgrades r) :
    s.destination r = .http (s.router.endpoints.lookup (r.method, r.target.path)) := by
  have hg : (if r.isUpgrade = true ∧ r.method = "GET" then s.router.gateways.lookup r.target.path else none)
      = none := by
    by_cases hc : r.isUpgrade = true ∧ r.method = "GET"
    · rw [if_pos hc, ← Option.not_isSome_iff_eq_none]
      exact fun hg => hu ⟨hc.2, hc.1, hg⟩
    · exact if_neg hc
  rw [destination_of_not_shows h]
  unfold destination.routed Router.find?
  rw [hg]
  cases s.router.endpoints.lookup (r.method, r.target.path) <;> rfl

end

end Server

end RequestPipeline
