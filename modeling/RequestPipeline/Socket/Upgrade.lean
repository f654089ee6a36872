import RequestPipeline.Digest.Sha1
import RequestPipeline.Http.Message
import RequestPipeline.Identity.Authenticator
import RequestPipeline.Socket.Fault
import RequestPipeline.Socket.Session
import RequestPipeline.Text.Base64
import RequestPipeline.Text.Split

/-!
# The handshake

A request asks for a WebSocket by four headers.  `acceptKey` checks them, in order, and gives the key that
proves it; `Request.upgrade` answers the request: it correlates and authenticates it, settles a subprotocol,
and opens a session.
-/

namespace RequestPipeline

namespace Socket

/-- what is appended to a key before it is digested -/
def keySuffix : String := "258EAFA5-E914-47DA-95CA-C5AB0DC85B11"

/-- the answer to the key of a client -/
def proof (key : String) : String :=
  String.ofList (Text.base64 (Digest.sha1 (Utf8.ofText (key ++ keySuffix))))

/-- whether a list of tokens holds the token `upgrade` -/
def hasUpgrade (line : String) : Bool :=
  (Text.splitText ',' line).any fun t => Text.sameAscii (Text.trim t) "upgrade"

/-- checks the headers that ask for a WebSocket -/
def acceptKey (headers : Headers) : Except SocketFault String :=
  if ¬ (headers.text? "connection").any hasUpgrade then
    .error (.notUpgrade "missing Connection: Upgrade header")
  else if ¬ (headers.text? "upgrade").any fun v => Text.sameAscii v "websocket" then
    .error (.notUpgrade "missing Upgrade: websocket header")
  else
    match (headers.text? "sec-websocket-key").filter fun k => ¬ k.isEmpty with
    | none => .error (.notUpgrade "missing Sec-WebSocket-Key header")
    | some key =>
      if headers.text? "sec-websocket-version" ≠ some "13" then
        .error (.notUpgrade "missing or invalid Sec-WebSocket-Version header (must be 13)")
      else .ok (proof key)

def offered (headers : Headers) : List String :=
  ((headers.getAll "sec-websocket-protocol").filterMap headerText?).flatMap Text.commaParts

/-- an answer to a handshake that succeeded -/
structure Upgrade where
  response : Response
  protocol : Option String
  session : Session
  deriving Repr

def switching (key : String) (protocol : Option String) : Response :=
  let line (name : String) (value : String) : String × Bytes := (name, Utf8.ofText value)
  ⟨101,
    [line "connection" "Upgrade", line "upgrade" "websocket", line "sec-websocket-accept" key] ++
      (protocol.map (line "sec-websocket-protocol")).toList, []⟩

end Socket

open Socket

def Request.isUpgrade (r : Request) : Bool := (acceptKey r.headers).toOption.isSome

/-- Answers a handshake: with a session, or with the response that rejects it.  The headers of the request
come back as correlation left them. -/
def Request.upgrade (r : Request) (factory : ContextFactory) (authenticator : Authenticator)
    (allowed : List String) (fresh : CorrelationId) : Except Response Upgrade × Headers :=
  match acceptKey r.headers with
  | .error f => (.error (.bytes 400 "text/plain" (Utf8.ofText f.message)), r.headers)
  | .ok key =>
    let (id, headers) := factory.correlate fresh r.headers
    let echo (response : Response) : Response :=
      response.withHeader factory.header (Utf8.encode id.chars)
    match authenticator headers with
    | .error f => (.error (echo (.failure f id)), headers)
    | .ok principal =>
      let protocol := (offered headers).find? fun p => allowed.any fun a => Text.sameAscii a p
      (.ok ⟨echo (switching key protocol), protocol, ⟨id, principal, headers⟩⟩, headers)

end RequestPipeline
