import RequestPipeline.Http.Message

/-!
# Health

A server reports that it is healthy until it drains.
-/

namespace RequestPipeline

structure HealthStatus where
  status : String
  service : String
  version : String
  uptimeSeconds : Nat
  deriving DecidableEq, Repr

namespace HealthStatus

def healthy : String := "healthy"

/-- the status of a service that has run for some milliseconds -/
def ofMilliseconds (status service version : String) (uptime : Nat) : HealthStatus :=
  ⟨status, service, version, uptime / 1000⟩

def isHealthy (h : HealthStatus) : Bool := h.status == healthy

def toJson (h : HealthStatus) : Json.Value :=
  Json.object
    [("status", .string h.status), ("service", .string h.service), ("version", .string h.version),
      ("uptime_seconds", .ofNat h.uptimeSeconds)]

end HealthStatus

structure Health where
  service : String
  version : String
  draining : Bool
  deriving DecidableEq, Repr

namespace Health

def start (service version : String) : Health := ⟨service, version, false⟩

def drain (h : Health) : Health := { h with draining := true }

def status (h : Health) (uptime : Nat) : HealthStatus :=
  .ofMilliseconds (if h.draining then "draining" else HealthStatus.healthy) h.service h.version uptime

def response (h : Health) (uptime : Nat) : Response :=
  let s := h.status uptime
  .json (if s.isHealthy then 200 else 503) s.toJson

end Health
end RequestPipeline
