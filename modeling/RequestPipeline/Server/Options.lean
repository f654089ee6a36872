import RequestPipeline.Config.SocketAddress
import RequestPipeline.Extraction.Body
import RequestPipeline.Text.Quoted

/-!
# Options of a server
-/

namespace RequestPipeline

/-- the address, the times (in milliseconds) and the limit of a server -/
structure ServerOptions where
  address : String
  shutdownTimeout : Nat
  requestTimeout : Nat
  maxBody : Nat
  deriving DecidableEq, Repr

inductive StartFault where
  | invalidAddress (address : String)
  /-- the host cannot listen at an address -/
  | cannotListen (address : SocketAddress)
  deriving DecidableEq, Repr

def StartFault.message : StartFault → String
  | .invalidAddress address =>
    "invalid address " ++ Text.quoted address ++ ": invalid socket address syntax"
  | .cannotListen address => "failed to bind " ++ address.ip.render

namespace ServerOptions

/-- the options when none are set: every interface, half a minute, a mebibyte -/
def default : ServerOptions := ⟨"0.0.0.0:8080", 30000, 30000, defaultMaxBody⟩

/-- the address to listen at: only the host's own addresses will do -/
def listenAt (o : ServerOptions) : Except StartFault SocketAddress :=
  match SocketAddress.parse? o.address with
  | none => .error (.invalidAddress o.address)
  | some a => if a.ip.isOwn then .ok a else .error (.cannotListen a)

end ServerOptions
end RequestPipeline
