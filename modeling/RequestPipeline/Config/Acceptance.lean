import RequestPipeline.Config.Fault
import RequestPipeline.Config.LogFilter
import RequestPipeline.Config.Settings
import RequestPipeline.Config.SocketAddress
import RequestPipeline.Http.Header
import RequestPipeline.Text.Quoted

/-!
# Accepting a configuration

`Settings.objections` lists what a service cannot run with, in the order in which it is looked for;
`Settings.accept` reports the first.
-/

namespace RequestPipeline

namespace Key

/-- the name of a setting with the name of its section -/
def path (k : Key) : String := k.home.name ++ "." ++ k.name

end Key

namespace Settings

def objection (k : Key) (fails : Bool) (reason : String) : Option ConfigFault :=
  if fails then some (.invalidValue k.path reason) else none

/-- the correlation header, without blanks around it -/
def header (s : Settings) : String := Text.trim s.pipeline.correlationHeader

def levelObjection (filter : String) : Option ConfigFault :=
  if (Text.trim filter).isEmpty then some (.invalidValue Key.logLevel.path "must not be empty")
  else (LogFilter.firstBadLevel filter).map fun d =>
    .invalidValue Key.logLevel.path ("invalid level in directive " ++ Text.quoted d)

/-- what is said of a limit of zero -/
def positive : String := "must be greater than 0"

def objections (s : Settings) : List (Option ConfigFault) :=
  [objection .address (SocketAddress.parse? s.server.address).isNone
      ("invalid socket address: " ++ s.server.address),
    objection .maxBody (s.server.maxBody = 0) positive,
    objection .requestTimeout (s.server.requestTimeout = 0) positive,
    objection .correlationHeader s.header.isEmpty "must not be empty",
    objection .correlationHeader (headerName? s.header.toList).isNone
      ("invalid header name: " ++ s.header),
    objection .maxMessage (s.websocket.maxMessage = 0) positive,
    objection .maxFrame (s.websocket.maxFrame = 0 ∨ s.websocket.maxMessage < s.websocket.maxFrame)
      (positive ++ " and at most " ++ Key.maxMessage.path),
    levelObjection s.logging.level]

def fault? (s : Settings) : Option ConfigFault := s.objections.findSome? id

def accept (s : Settings) : Except ConfigFault Settings :=
  match s.fault? with
  | some f => .error f
  | none => .ok s

end Settings
end RequestPipeline
