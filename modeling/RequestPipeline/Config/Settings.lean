import RequestPipeline.Json.Record
import RequestPipeline.Number.Literal
import RequestPipeline.Text.Case
import RequestPipeline.Text.Split

/-!
# Settings

A service has settings in five sections.  A `Key` names one setting; `Key.kind` says what it holds, and
`Settings.get` and `Settings.put` read and write it, so that every source of settings (presets, documents,
variables) is a list of writes.  Main statements: a setting that was written is read back
(`get_put_self`), and a write leaves every other setting as it is (`get_put_of_ne`).
-/

namespace RequestPipeline

open Json (Value Reader Field)

inductive Section where
  | server | pipeline | websocket | logging | metrics
  deriving DecidableEq, Repr

namespace Section

def all : List Section := [.server, .pipeline, .websocket, .logging, .metrics]

def name : Section → String
  | .server => "server"
  | .pipeline => "pipeline"
  | .websocket => "websocket"
  | .logging => "logging"
  | .metrics => "metrics"

/-- how a complaint names the record of a section -/
def recordName : Section → String
  | .server => "ServerSection"
  | .pipeline => "PipelineSection"
  | .websocket => "WebSocketSection"
  | .logging => "LogConfig"
  | .metrics => "MetricsConfig"

end Section

inductive Key where
  | address | shutdownTimeout | requestTimeout | maxBody
  | correlationHeader | trustIncoming
  | maxMessage | maxFrame | idleTimeout
  | logEnabled | logLevel | logJson | logSpans | logLines | logTarget
  | metricsEnabled | buckets
  deriving DecidableEq, Repr

inductive SettingKind where
  | text | flag | seconds | size | numbers
  deriving DecidableEq, Repr

/-- the value of a setting -/
inductive Setting where
  | text (s : String)
  | flag (b : Bool)
  | count (n : Nat)
  | numbers (ns : List Float64)
  deriving DecidableEq, Repr

namespace Key

def all : List Key :=
  [.address, .shutdownTimeout, .requestTimeout, .maxBody, .correlationHeader, .trustIncoming,
    .maxMessage, .maxFrame, .idleTimeout, .logEnabled, .logLevel, .logJson, .logSpans, .logLines,
    .logTarget, .metricsEnabled, .buckets]

def home : Key → Section
  | .address => .server
  | .shutdownTimeout => .server
  | .requestTimeout => .server
  | .maxBody => .server
  | .correlationHeader => .pipeline
  | .trustIncoming => .pipeline
  | .maxMessage => .websocket
  | .maxFrame => .websocket
  | .idleTimeout => .websocket
  | .logEnabled => .logging
  | .logLevel => .logging
  | .logJson => .logging
  | .logSpans => .logging
  | .logLines => .logging
  | .logTarget => .logging
  | .metricsEnabled => .metrics
  | .buckets => .metrics

/-- the name of a setting within its section -/
def name : Key → String
  | .address => "http_addr"
  | .shutdownTimeout => "shutdown_timeout_secs"
  | .requestTimeout => "request_timeout_secs"
  | .maxBody => "max_body_bytes"
  | .correlationHeader => "correlation_header"
  | .trustIncoming => "trust_incoming_correlation"
  | .maxMessage => "max_message_size"
  | .maxFrame => "max_frame_size"
  | .idleTimeout => "idle_timeout_secs"
  | .logEnabled => "enabled"
  | .logLevel => "level"
  | .logJson => "json"
  | .logSpans => "span_events"
  | .logLines => "file_line_info"
  | .logTarget => "include_target"
  | .metricsEnabled => "enabled"
  | .buckets => "duration_buckets"

def kind : Key → SettingKind
  | .address => .text
  | .shutdownTimeout => .seconds
  | .requestTimeout => .seconds
  | .maxBody => .size
  | .correlationHeader => .text
  | .trustIncoming => .flag
  | .maxMessage => .size
  | .maxFrame => .size
  | .idleTimeout => .seconds
  | .logEnabled => .flag
  | .logLevel => .text
  | .logJson => .flag
  | .logSpans => .flag
  | .logLines => .flag
  | .logTarget => .flag
  | .metricsEnabled => .flag
  | .buckets => .numbers

def ofSection (s : Section) : List Key := all.filter fun k => k.home == s

end Key

def Setting.fits : SettingKind → Setting → Bool
  | .text, .text _ => true
  | .flag, .flag _ => true
  | .seconds, .count _ => true
  | .size, .count _ => true
  | .numbers, .numbers _ => true
  | _, _ => false

/-- where a server listens, how long it waits and how much it takes -/
structure ServerSettings where
  address : String
  shutdownTimeout : Nat
  requestTimeout : Nat
  maxBody : Nat
  deriving DecidableEq, Repr

structure PipelineSettings where
  correlationHeader : String
  trustIncoming : Bool
  deriving DecidableEq, Repr

structure SocketSettings where
  maxMessage : Nat
  maxFrame : Nat
  idleTimeout : Nat
  deriving DecidableEq, Repr

structure LogSettings where
  enabled : Bool
  level : String
  json : Bool
  spans : Bool
  lines : Bool
  target : Bool
  deriving DecidableEq, Repr

/-- whether requests are counted, and the bounds of the histogram -/
structure MetricSettings where
  enabled : Bool
  buckets : List Float64
  deriving DecidableEq, Repr

structure Settings where
  server : ServerSettings
  pipeline : PipelineSettings
  websocket : SocketSettings
  logging : LogSettings
  metrics : MetricSettings
  deriving DecidableEq, Repr

namespace LogSettings

/-- verbose, for people -/
def development : LogSettings := ⟨true, "debug", false, true, true, true⟩

/-- sparing, for programs -/
def production : LogSettings := ⟨true, "info", true, false, false, true⟩

end LogSettings

namespace Settings

/-- the bounds of the duration histogram when none are set: from a millisecond to ten seconds -/
def defaultBuckets : List Float64 :=
  [(1, -3), (5, -3), (1, -2), (25, -3), (5, -2), (1, -1), (25, -2), (5, -1), (1, 0), (25, -1),
    (5, 0), (1, 1)].map fun (d, e) => Float64.ofDecimal false d e

def default : Settings where
  server := ⟨"0.0.0.0:8080", 30, 30, 1048576⟩
  pipeline := ⟨"x-request-id", true⟩
  websocket := ⟨67108864, 16777216, 300⟩
  logging := .production
  metrics := ⟨true, defaultBuckets⟩

def development : Settings := { default with logging := .development }

/-- the preset for production: ids that come in are not trusted -/
def production : Settings :=
  { default with
    logging := .production
    pipeline := { default.pipeline with trustIncoming := false } }

def get (s : Settings) : Key → Setting
  | .address => .text s.server.address
  | .shutdownTimeout => .count s.server.shutdownTimeout
  | .requestTimeout => .count s.server.requestTimeout
  | .maxBody => .count s.server.maxBody
  | .correlationHeader => .text s.pipeline.correlationHeader
  | .trustIncoming => .flag s.pipeline.trustIncoming
  | .maxMessage => .count s.websocket.maxMessage
  | .maxFrame => .count s.websocket.maxFrame
  | .idleTimeout => .count s.websocket.idleTimeout
  | .logEnabled => .flag s.logging.enabled
  | .logLevel => .text s.logging.level
  | .logJson => .flag s.logging.json
  | .logSpans => .flag s.logging.spans
  | .logLines => .flag s.logging.lines
  | .logTarget => .flag s.logging.target
  | .metricsEnabled => .flag s.metrics.enabled
  | .buckets => .numbers s.metrics.buckets

/-- writes a setting; a value of another kind than the setting's changes nothing -/
def put (s : Settings) : Key → Setting → Settings
  | .address, .text v => { s with server := { s.server with address := v } }
  | .shutdownTimeout, .count v => { s with server := { s.server with shutdownTimeout := v } }
  | .requestTimeout, .count v => { s with server := { s.server with requestTimeout := v } }
  | .maxBody, .count v => { s with server := { s.server with maxBody := v } }
  | .correlationHeader, .text v =>
    { s with pipeline := { s.pipeline with correlationHeader := v } }
  | .trustIncoming, .flag v => { s with pipeline := { s.pipeline with trustIncoming := v } }
  | .maxMessage, .count v => { s with websocket := { s.websocket with maxMessage := v } }
  | .maxFrame, .count v => { s with websocket := { s.websocket with maxFrame := v } }
  | .idleTimeout, .count v => { s with websocket := { s.websocket with idleTimeout := v } }
  | .logEnabled, .flag v => { s with logging := { s.logging with enabled := v } }
  | .logLevel, .text v => { s with logging := { s.logging with level := v } }
  | .logJson, .flag v => { s with logging := { s.logging with json := v } }
  | .logSpans, .flag v => { s with logging := { s.logging with spans := v } }
  | .logLines, .flag v => { s with logging := { s.logging with lines := v } }
  | .logTarget, .flag v => { s with logging := { s.logging with target := v } }
  | .metricsEnabled, .flag v => { s with metrics := { s.metrics with enabled := v } }
  | .buckets, .numbers v => { s with metrics := { s.metrics with buckets := v } }
  | _, _ => s

theorem get_put_self {k : Key} {v : Setting} (h : v.fits k.kind = true) (s : Settings) :
    (s.put k v).get k = v := by
  cases k <;> cases v <;> first | rfl | simp [Setting.fits, Key.kind] at h

theorem get_put_of_ne {k j : Key} (h : j ≠ k) (v : Setting) (s : Settings) :
    (s.put k v).get j = s.get j := by
  cases k <;> cases v <;> first | rfl | (cases j <;> first | rfl | exact absurd rfl h)

end Settings

/-! ## settings as documents -/

def SettingKind.reader : SettingKind → Reader
  | .text => .text
  | .flag => .flag
  | .seconds => .uint64
  | .size => .size
  | .numbers => .list .float

def SettingKind.ofValue? : SettingKind → Value → Option Setting
  | .text, v => v.text?.map .text
  | .flag, v => v.bool?.map .flag
  | .seconds, v => v.nat?.map .count
  | .size, v => v.nat?.map .count
  | .numbers, v => v.items?.map fun vs => .numbers (vs.filterMap fun
      | .number (.float f) => some (.finite f)
      | _ => none)

/-- a floating-point number as a value; what is not finite is null -/
def floatValue : Float64 → Value
  | .finite f => .number (.float f)
  | _ => .null

def Setting.toJson : Setting → Value
  | .text s => .string s
  | .flag b => .bool b
  | .count n => .ofNat n
  | .numbers ns => .array (ns.map floatValue)

namespace Section

/-- how a section is read: every setting may be left out -/
def reader (s : Section) : Reader :=
  .record s.recordName true ((Key.ofSection s).map fun k => ⟨k.name, k.kind.reader, false⟩)

end Section

namespace Settings

/-- how settings are read: every section may be left out -/
def reader : Reader :=
  .record "TurnstileConfig" true (Section.all.map fun s => ⟨s.name, s.reader, false⟩)

def putSection (s : Settings) (sec : Section) (record : Value) : Settings :=
  (Key.ofSection sec).foldl (fun s k =>
    match (record.get? k.name).bind k.kind.ofValue? with
    | some v => s.put k v
    | none => s) s

/-- the settings that a record holds, the defaults elsewhere -/
def ofRecord (record : Value) : Settings :=
  Section.all.foldl (fun s sec =>
    match record.get? sec.name with
    | some r => s.putSection sec r
    | none => s) default

def sectionJson (s : Settings) (sec : Section) : Value :=
  Json.object ((Key.ofSection sec).map fun k => (k.name, (s.get k).toJson))

def toJson (s : Settings) : Value :=
  Json.object (Section.all.map fun sec => (sec.name, s.sectionJson sec))

end Settings
end RequestPipeline
